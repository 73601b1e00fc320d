import DiscoveryFiles.Proofs.FileTree.Path
import DiscoveryFiles.Proofs.FileTree.Presence
import DiscoveryFiles.Proofs.Kind.Detection
import DiscoveryFiles.Proofs.Service.Afresh
import DiscoveryFiles.Proofs.Service.Escape

/-!
# Going through files

A scan checks one file after the other and stops at the first one that has no result.  It answers
what new services answer for the files one by one.
-/

namespace DiscoveryFiles

/-! ## Attempts in order -/

section Attempts

variable {α β ε : Type} {attempt : α → Except ε β} {elements : List α}

/-- The first of some attempts to fail fails in this way. -/
def FailsFirst (attempt : α → Except ε β) (elements : List α) (failure : ε) : Prop :=
  ∃ before element behind, elements = before ++ element :: behind ∧
    attempt element = .error failure ∧
    ∀ earlier ∈ before, ∃ value, attempt earlier = .ok value

theorem mapM_cons_eq (attempt : α → Except ε β) (first : α) (rest : List α) :
    (first :: rest).mapM attempt =
      (attempt first).bind fun value => (rest.mapM attempt).map (value :: ·) := by
  rw [List.mapM_cons]
  cases attempt first with
  | error failure => rfl
  | ok value => cases rest.mapM attempt <;> rfl

theorem mapM_eq_ok_iff {values : List β} :
    elements.mapM attempt = .ok values ↔
      List.Forall₂ (fun element value => attempt element = .ok value) elements values := by
  induction elements generalizing values with
  | nil => simp [pure, Except.pure, eq_comm]
  | cons first rest induction =>
      rw [mapM_cons_eq, List.forall₂_cons_left_iff]
      simp only [← induction]
      cases attempt first with
      | error failure => simp [Except.bind]
      | ok value => cases rest.mapM attempt <;> simp [Except.bind, Except.map, eq_comm]

private theorem failsFirst_cons_iff {first : α} {rest : List α} {failure : ε} :
    FailsFirst attempt (first :: rest) failure ↔
      attempt first = .error failure ∨
        (∃ value, attempt first = .ok value) ∧ FailsFirst attempt rest failure := by
  constructor
  · rintro ⟨before, element, behind, split_eq, failed, passed⟩
    cases before with
    | nil =>
        obtain ⟨rfl, -⟩ := List.cons.inj split_eq
        exact .inl failed
    | cons earlier before =>
        obtain ⟨rfl, rfl⟩ := List.cons.inj split_eq
        obtain ⟨first_passed, others_passed⟩ := List.forall_mem_cons.mp passed
        exact .inr ⟨first_passed, before, element, behind, rfl, failed, others_passed⟩
  · rintro (failed | ⟨first_passed, before, element, behind, rfl, failed, passed⟩)
    · exact ⟨[], first, rest, rfl, failed, by simp⟩
    · exact ⟨first :: before, element, behind, rfl, failed,
        List.forall_mem_cons.mpr ⟨first_passed, passed⟩⟩

theorem mapM_eq_error_iff {failure : ε} :
    elements.mapM attempt = .error failure ↔ FailsFirst attempt elements failure := by
  induction elements with
  | nil => simp [FailsFirst, pure, Except.pure]
  | cons first rest induction =>
      rw [mapM_cons_eq, failsFirst_cons_iff, ← induction]
      cases attempt first with
      | error other => simp [Except.bind]
      | ok value => cases rest.mapM attempt <;> simp [Except.bind, Except.map]

/-- Attempts end with values if each of them has one. -/
theorem exists_mapM_eq_ok (passed : ∀ element ∈ elements, ∃ value, attempt element = .ok value) :
    ∃ values, elements.mapM attempt = .ok values := by
  cases ran : elements.mapM attempt with
  | ok values => exact ⟨values, rfl⟩
  | error failure =>
      obtain ⟨before, element, behind, rfl, failed, -⟩ := mapM_eq_error_iff.mp ran
      obtain ⟨value, has_value⟩ := passed element (by simp)
      rw [failed] at has_value
      cases has_value

/-- What holds of all values holds, in its way, of all that was attempted. -/
theorem forall_mem_iff_of_forall₂ {relation : α → β → Prop} {values : List β} {p : α → Prop}
    {q : β → Prop} (related : List.Forall₂ relation elements values)
    (same : ∀ element value, relation element value → (p element ↔ q value)) :
    (∀ element ∈ elements, p element) ↔ ∀ value ∈ values, q value := by
  induction related with
  | nil => simp
  | cons first _ induction =>
      rw [List.forall_mem_cons, List.forall_mem_cons, same _ _ first, induction]

/-- Attempts end with values of some kind if each of them has one. -/
theorem exists_mapM_eq_ok_and_iff {q : β → Prop} :
    (∃ values, elements.mapM attempt = .ok values ∧ ∀ value ∈ values, q value) ↔
      ∀ element ∈ elements, ∃ value, attempt element = .ok value ∧ q value := by
  have same (values : List β) (ran : elements.mapM attempt = .ok values) :=
    forall_mem_iff_of_forall₂ (p := fun element => ∃ value, attempt element = .ok value ∧ q value)
      (q := q) (mapM_eq_ok_iff.mp ran) fun element value has_value => by simp [has_value]
  constructor
  · rintro ⟨values, ran, good⟩
    exact (same values ran).mpr good
  · intro passed
    obtain ⟨values, ran⟩ := exists_mapM_eq_ok fun element member =>
      (passed element member).imp fun value => And.left
    exact ⟨values, ran, (same values ran).mp passed⟩

end Attempts

namespace Service

/-! ## One file -/

section File

variable {tree : FileTree} {path : String} {given : Option String} {state : ServiceState}

theorem answer_validateFile :
    answer (validateFile tree path given) state =
      match tree.isFile (Path.ofString path) with
      | .error _ => .error .nameTooLong
      | .ok false => .error (.fileNotFound path)
      | .ok true =>
          match tree.read (Path.ofString path) with
          | .error obstacle =>
              .error (.unreadable path (obstacle.message (Path.ofString path)))
          | .ok bytes =>
              answer (validateContent tree path (Utf8.decodeLossy bytes) given) state := by
  rw [validateFile]
  cases tree.isFile (Path.ofString path) with
  | error obstacle => rfl
  | ok found =>
      cases found with
      | false => rfl
      | true => cases tree.read (Path.ofString path) <;> rfl

/-- The failures that checking a file can end in. -/
def FailsFile : Failure → Prop
  | .fileNotFound _ | .unreadable _ _ | .json _ | .evaluation _ | .nameTooLong => True
  | _ => False

theorem failsFile_of_validateFile {failure : Failure}
    (failed : answer (validateFile tree path given) state = .error failure) :
    FailsFile failure := by
  rw [answer_validateFile] at failed
  split at failed
  · obtain rfl := Except.error.inj failed
    trivial
  · obtain rfl := Except.error.inj failed
    trivial
  · split at failed
    · obtain rfl := Except.error.inj failed
      trivial
    · obtain ⟨tag, -, failed⟩ := answer_validateContent_eq_error_iff_findings.mp failed
      obtain ⟨kind, -, escapes⟩ := answer_findingsForTag_eq_error_iff.mp failed
      cases escapes <;> trivial

end File

/-! ## One directory -/

/-- A request for a directory is refused unless there is one. -/
theorem answer_requireDirectory_then {α : Type} {tree : FileTree} {path : String}
    {next : Unit → Service α} {state : ServiceState} :
    answer (requireDirectory tree path >>= next) state =
      match tree.isDirectory (Path.ofString path) with
      | .error _ => .error .nameTooLong
      | .ok false => .error (.directoryNotFound path)
      | .ok true => answer (next ()) state := by
  rw [answer_bind, requireDirectory]
  cases tree.isDirectory (Path.ofString path) with
  | error obstacle => rfl
  | ok found => cases found <;> rfl

/-! ## Files one by one -/

/-- What a new service answers for the file at a path. -/
def alone (tree : FileTree) (schemas path : Path) : Except Failure Result :=
  answer (validateFile tree path.words none) (.fresh schemas)

/-- What a scan comes to at a path where it does not rule out a file. -/
def attempt (tree : FileTree) (schemas path : Path) : Except Failure Result :=
  if tree.IsTooLong path then .error .nameTooLong else alone tree schemas path

section Alone

variable {tree : FileTree} {schemas path : Path}

theorem alone_of_isTooLong (read : path.IsRead) (long : tree.IsTooLong path) :
    alone tree schemas path = .error .nameTooLong := by
  have tested := FileTree.isFile_eq_error_iff.mpr ⟨long, rfl⟩
  rw [alone, answer_validateFile, Path.ofString_words read, tested]

theorem attempt_eq_alone (read : path.IsRead) :
    attempt tree schemas path = alone tree schemas path := by
  rw [attempt]
  split
  next long => exact (alone_of_isTooLong read long).symm
  · rfl

variable {α : Type} {next : Result → Service α} {rest : Service α}
  (nextAfresh : ∀ result, AnswersAfresh schemas tree (next result))
  (restAfresh : AnswersAfresh schemas tree rest)

include nextAfresh restAfresh

theorem answersAfresh_step :
    AnswersAfresh schemas tree
      (do if ← hasFile tree path then next (← validateFile tree path.words none) else rest) := by
  refine (answersAfresh_hasFile path).bind fun found => ?_
  cases found with
  | false => exact restAfresh
  | true => exact (answersAfresh_validateFile _ _).bind nextAfresh

/-- A step of a scan: a path that has no file is passed over, any other is attempted. -/
theorem answer_step :
    answer (do if ← hasFile tree path then next (← validateFile tree path.words none) else rest)
        (.fresh schemas) =
      if tree.MayHaveFile path then
        (attempt tree schemas path).bind fun result => answer (next result) (.fresh schemas)
      else answer rest (.fresh schemas) := by
  have validated : AnswersAfresh schemas tree (validateFile tree path.words none) :=
    answersAfresh_validateFile _ _
  have split (found : Bool) : AnswersAfresh schemas tree
      (if found = true then validateFile tree path.words none >>= next else rest) := by
    cases found with
    | false => exact restAfresh
    | true => exact validated.bind nextAfresh
  rw [(answersAfresh_hasFile path).answer_bind split, hasFile, attempt]
  cases tested : tree.isFile path with
  | error obstacle =>
      obtain ⟨long, -⟩ := FileTree.isFile_eq_error_iff.mp tested
      rw [if_pos (.inr long), if_pos long]
      rfl
  | ok found =>
      cases found with
      | false =>
          rw [if_neg (FileTree.not_mayHaveFile_iff.mpr tested)]
          rfl
      | true =>
          have found := FileTree.isFile_eq_true_iff.mp tested
          rw [if_pos (.inl found), if_neg found.not_isTooLong, alone,
            ← validated.answer_bind nextAfresh]
          rfl

end Alone

end Service
end DiscoveryFiles
