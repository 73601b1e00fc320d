import DiscoveryFiles.Proofs.Service.Answer
import DiscoveryFiles.Service.Validation

/-!
# Checking one file

What checking one file answers: the result of the check under the tag of the file, or the one error
for a file without a tag.
-/

namespace DiscoveryFiles
namespace Service

theorem answer_validateContent (tree : FileTree) (file : String) (content : Text)
    (given : Option String) (state : ServiceState) :
    answer (validateContent tree file content given) state =
      match tagFor? file given with
      | none => .ok (undetected file)
      | some tag => (answer (findingsForTag tree content tag) state).map (⟨file, tag, ·⟩) := by
  rw [validateContent.eq_def]
  cases tagFor? file given with
  | none => rfl
  | some tag =>
      simp only [answer_bind]
      cases answer (findingsForTag tree content tag) state with
      | error failure => rfl
      | ok findings => simp [note, answer_noteAll, Except.map]

/-- A file of data is checked as such. -/
theorem answer_findingsForTag_data (tree : FileTree) (content : Text) (kind : Check.DataKind)
    (state : ServiceState) :
    answer (findingsForTag tree content kind.kind.tag) state =
      answer (Check.structured tree kind content) state := by
  rw [findingsForTag, Kind.ofTag?_tag]
  cases kind <;> rfl

theorem answer_validateContent_data_iff {tree : FileTree} {file : String} {content : Text}
    {given : Option String} {state : ServiceState} {kind : Check.DataKind} {result : Result}
    (tag_eq : tagFor? file given = some kind.kind.tag) :
    answer (validateContent tree file content given) state = .ok result ↔
      ∃ findings, answer (Check.structured tree kind content) state = .ok findings ∧
        ⟨file, kind.kind.tag, findings⟩ = result := by
  simp only [answer_validateContent, tag_eq, answer_findingsForTag_data]
  cases answer (Check.structured tree kind content) state <;> simp [Except.map]

end Service
end DiscoveryFiles
