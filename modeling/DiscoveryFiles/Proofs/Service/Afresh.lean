import DiscoveryFiles.Proofs.Service.Independence
import DiscoveryFiles.Service.Scan

/-!
# Requests that do not see the past

A request that touches the state of a service only through the schemas that it loads answers behind
any requests what it answers on a new service, as long as the files stay as they are.  Such requests
put together are of the same kind, and what they answer on a new service is put together likewise.
-/

namespace DiscoveryFiles
namespace Service

/-- On every service that loads schemas like a new one, a request answers as on a new one, and it
leaves a service of this kind behind. -/
def AnswersAfresh {α : Type} (directory : Path) (tree : FileTree) (request : Service α) : Prop :=
  ∀ state, LoadsAfresh directory tree state →
    answer request state = answer request (.fresh directory) ∧
      LoadsAfresh directory tree (after request state)

section Combination

variable {α β : Type} {directory : Path} {tree : FileTree}

theorem loadsAfresh_fresh (directory : Path) (tree : FileTree) :
    LoadsAfresh directory tree (.fresh directory) :=
  ⟨rfl, fun _ => rfl⟩

theorem answersAfresh_pure (value : α) : AnswersAfresh directory tree (pure value) :=
  fun _ afresh => ⟨rfl, afresh⟩

theorem answersAfresh_throw (failure : Failure) :
    AnswersAfresh directory tree (throw failure : Service α) :=
  fun _ afresh => ⟨rfl, afresh⟩

theorem answersAfresh_note (level : Level) (source : LogSource) (message : String) :
    AnswersAfresh directory tree (note level source message) :=
  fun _ afresh => ⟨rfl, afresh⟩

variable {request : Service α} {next : α → Service β}

theorem AnswersAfresh.bind (first : AnswersAfresh directory tree request)
    (second : ∀ value, AnswersAfresh directory tree (next value)) :
    AnswersAfresh directory tree (request >>= next) := by
  intro state afresh
  obtain ⟨same, behind⟩ := first state afresh
  obtain ⟨-, behind_fresh⟩ := first _ (loadsAfresh_fresh directory tree)
  rw [answer_bind, answer_bind, after_bind, same]
  cases answer request (.fresh directory) with
  | error failure => exact ⟨rfl, behind⟩
  | ok value =>
      obtain ⟨later, behind_all⟩ := second value _ behind
      exact ⟨later.trans (second value _ behind_fresh).1.symm, behind_all⟩

/-- What two requests answer one after the other is what they answer on new services. -/
theorem AnswersAfresh.answer_bind (first : AnswersAfresh directory tree request)
    (second : ∀ value, AnswersAfresh directory tree (next value)) :
    answer (request >>= next) (.fresh directory) =
      (answer request (.fresh directory)).bind fun value =>
        answer (next value) (.fresh directory) := by
  obtain ⟨-, behind⟩ := first _ (loadsAfresh_fresh directory tree)
  rw [Service.answer_bind]
  cases answer request (.fresh directory) with
  | error failure => rfl
  | ok value => exact (second value _ behind).1

variable {rest : Service (List α)} (others : AnswersAfresh directory tree rest) (first : α)

include others

theorem answersAfresh_cons : AnswersAfresh directory tree (return first :: (← rest)) :=
  others.bind fun _ => answersAfresh_pure _

theorem answer_cons :
    answer (return first :: (← rest)) (.fresh directory) =
      (answer rest (.fresh directory)).map (first :: ·) := by
  rw [others.answer_bind fun _ => answersAfresh_pure _]
  cases answer rest (.fresh directory) <;> rfl

end Combination

/-! ## Checking files -/

section Files

variable {directory : Path} {tree : FileTree}

private theorem answersAfresh_run (request : Request) :
    AnswersAfresh directory request.tree request.run :=
  fun _ afresh => ⟨answer_run_congr afresh.2, afresh.after_run⟩

private theorem answersAfresh_validateContent (file : String) (content : Text)
    (given : Option String) :
    AnswersAfresh directory tree (validateContent tree file content given) :=
  answersAfresh_run ⟨tree, file, content, given⟩

theorem answersAfresh_validateFile (path : String) (given : Option String) :
    AnswersAfresh directory tree (validateFile tree path given) := by
  rw [validateFile]
  cases tree.isFile (Path.ofString path) with
  | error obstacle => exact answersAfresh_throw _
  | ok found =>
      cases found with
      | false => exact answersAfresh_throw _
      | true =>
          cases tree.read (Path.ofString path) with
          | error obstacle => exact answersAfresh_throw _
          | ok bytes => exact answersAfresh_validateContent _ _ _

theorem answersAfresh_hasFile (path : Path) :
    AnswersAfresh directory tree (hasFile tree path) := by
  rw [hasFile]
  cases tree.isFile path with
  | error obstacle => exact answersAfresh_throw _
  | ok found => exact answersAfresh_pure _

theorem answersAfresh_requireDirectory (path : String) :
    AnswersAfresh directory tree (requireDirectory tree path) := by
  rw [requireDirectory]
  cases tree.isDirectory (Path.ofString path) with
  | error obstacle => exact answersAfresh_throw _
  | ok found =>
      cases found with
      | false => exact answersAfresh_throw _
      | true => exact answersAfresh_pure _

end Files

end Service
end DiscoveryFiles
