import DiscoveryFiles.Proofs.Bundled.Served
import DiscoveryFiles.Proofs.Schema.Acceptance
import DiscoveryFiles.Proofs.Schema.Conformance

/-!
# Verdicts under a bundled schema

A bundled schema comes down to a property of objects.  A file of data that is checked under it is
without errors exactly when it holds an object with the property, since the checks that do not
depend on a schema ask for no more.
-/

namespace DiscoveryFiles
namespace Bundled

open Check Schema Service

/-- The bundled schema for a kind of file has some keywords, and comes down to a property of
objects. -/
structure Describes (kind : DataKind) (keywords : List (CodePoints × Json))
    (property : List (CodePoints × Json) → Prop) : Prop where
  /-- The bundled text is read as the keywords. -/
  read : Json.parse (schemaText kind) = .ok (.object keywords)
  /-- The text has no other line breaks than line feeds. -/
  unbroken : '\r' ∉ schemaText kind
  /-- The keywords accept the objects with the property. -/
  accepts : Accepts ⟨.object keywords, []⟩ [] (.object keywords) fun data =>
    ∃ members, data = .object members ∧ property members
  /-- An object with the property has all that is asked for without a schema. -/
  complete : ∀ members, property members → structuralErrors kind members = []

namespace Describes

variable {kind : DataKind} {keywords members : List (CodePoints × Json)}
  {property : List (CodePoints × Json) → Prop} {tree : FileTree} {state : ServiceState}
  {content : Text}

/-- The evaluation of the schema by an object comes to an end. -/
theorem exists_violations (describes : Describes kind keywords property)
    (members : List (CodePoints × Json)) :
    ∃ found,
      violations (some (.object keywords)) [] (.object keywords) (.object members) = .ok found ∧
      (found = [] ↔ property members) := by
  obtain ⟨found, found_eq, found_iff⟩ := describes.accepts [] (.object members)
  refine ⟨found, ?_, found_iff.trans (by simp)⟩
  rw [violations_eq_check]
  exact found_eq

/-- The findings for an object are the violations of the schema and what the object lacks; there is
no warning. -/
theorem answer_structured (describes : Describes kind keywords property)
    (serves : Serves tree state kind) (read : Json.parse content = .ok (.object members)) :
    ∃ found,
      violations (some (.object keywords)) [] (.object keywords) (.object members) = .ok found ∧
      (found = [] ↔ property members) ∧
      answer (structured tree kind content) state =
        .ok ⟨found.map violationIssue ++ structuralErrors kind members, []⟩ := by
  obtain ⟨found, found_eq, found_iff⟩ := describes.exists_violations members
  have loaded := serves.answer_load describes.read describes.unbroken
  rw [SchemaStore.answer_load] at loaded
  refine ⟨found, found_eq, found_iff, ?_⟩
  rw [answer_structured_object read, consulted, loaded]
  simp only [evaluate, found_eq, violationFindings_eq]
  rfl

/-- Without errors the content is an object with the property, and there is no warning. -/
theorem of_structured {findings : Findings} (describes : Describes kind keywords property)
    (serves : Serves tree state kind)
    (answered : answer (structured tree kind content) state = .ok findings)
    (faultless : findings.errors = []) :
    (∃ members, Json.parse content = .ok (.object members) ∧ property members) ∧
      findings.warnings = [] := by
  by_cases isObject : ∃ members, Json.parse content = .ok (.object members)
  · obtain ⟨members, read⟩ := isObject
    obtain ⟨found, -, found_iff, answer_eq⟩ := describes.answer_structured serves read
    obtain rfl := Except.ok.inj (answer_eq.symm.trans answered)
    obtain ⟨none_found, -⟩ := List.append_eq_nil_iff.mp faultless
    exact ⟨⟨members, read, found_iff.mp (List.map_eq_nil_iff.mp none_found)⟩, rfl⟩
  · have other : ∀ members, Json.parse content ≠ .ok (.object members) :=
      fun members read => isObject ⟨members, read⟩
    obtain ⟨issue, rfl⟩ := answer_structured_other other answered
    cases faultless

/-- An object with the property has no errors. -/
theorem answer_structured_of_property (describes : Describes kind keywords property)
    (serves : Serves tree state kind) (read : Json.parse content = .ok (.object members))
    (holds : property members) :
    answer (structured tree kind content) state = .ok ⟨[], []⟩ := by
  obtain ⟨found, -, found_iff, answer_eq⟩ := describes.answer_structured serves read
  rw [answer_eq, found_iff.mpr holds, describes.complete members holds]
  rfl

end Describes

end Bundled
end DiscoveryFiles
