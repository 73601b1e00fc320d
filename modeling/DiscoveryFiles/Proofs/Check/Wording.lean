import DiscoveryFiles.Proofs.Check.Structured

/-!
# Errors by their texts

The text of an error alone tells what kind of error it is: the checks that do not depend on a schema
begin their errors in another way than a schema does, and a schema ends the error for an absent
member in another way than its other errors.
-/

namespace DiscoveryFiles

/-! ## Endings -/

/-- No text that ends with this one ends with the word `missing`. -/
def Text.EndsApart (text : Text) : Prop :=
  ∀ front : Text, ¬ "missing".toList <:+ front ++ text

namespace Text

theorem EndsApart.append {text : Text} (apart : text.EndsApart) (front : Text) :
    EndsApart (front ++ text) := by
  intro before
  rw [← List.append_assoc]
  exact apart (before ++ front)

private theorem endsApart_of_not_suffix {text : Text} (inside : ¬ text <:+ "missing".toList)
    (around : ¬ "missing".toList <:+ text) : text.EndsApart := by
  intro front ends
  rcases List.suffix_or_suffix_of_suffix ends (List.suffix_append front text) with within | beyond
  · exact around within
  · exact inside beyond

/-- The last character is enough to tell, if it is not the one that the word ends with. -/
theorem endsApart_of_getLast? {text : Text} {last : Char} (last_eq : text.getLast? = some last)
    (other : last ≠ 'g') : text.EndsApart := by
  rintro front ⟨before, split⟩
  have word_last : (before ++ "missing".toList).getLast? = some 'g' := by
    simp [List.getLast?_append]
  have text_last : (front ++ text).getLast? = some last := by
    simp [List.getLast?_append, last_eq]
  rw [split, text_last, Option.some.injEq] at word_last
  exact other word_last

private theorem endsApart_digits (number : Nat) : EndsApart (Nat.toDigits 10 number) := by
  have nonempty : Nat.toDigits 10 number ≠ [] := Nat.toDigits_ne_nil
  have digit := Nat.isDigit_of_mem_toDigits (by decide) (by decide) (List.getLast_mem nonempty)
  refine endsApart_of_getLast? (List.getLast?_eq_getLast_of_ne_nil nonempty) fun same => ?_
  rw [same] at digit
  exact absurd digit (by decide)

private theorem endsApart_writeInteger (number : Int) : EndsApart (Json.writeInteger number) := by
  cases number with
  | ofNat number => exact endsApart_digits number
  | negSucc number => exact (endsApart_digits (number + 1)).append ['-']

end Text

namespace Schema

open Text

private theorem endsApart_typeName (data : Json) : EndsApart data.typeName.toList := by
  have names : ∀ name ∈ ["null", "boolean", "number", "string", "array", "object"],
      ¬ name.toList <:+ "missing".toList ∧ ¬ "missing".toList <:+ name.toList := by
    decide
  obtain ⟨inside, around⟩ := names data.typeName (by cases data <;> simp [Json.typeName])
  exact endsApart_of_not_suffix inside around

/-- The message of a cause ends with fixed words, with the name of a type or with an integer. -/
def Cause.IsOrdinary : Cause → Prop
  | missing _ | unresolved _ => False
  | shortString _ least | fewItems _ least => ∃ bound, least = .integer bound
  | wrongType _ actual => ∃ data : Json, data.typeName = actual
  | _ => True

private theorem endsApart_message {cause : Cause} (ordinary : cause.IsOrdinary) :
    EndsApart cause.message.toList := by
  have behind (front : String) {ending : String} (apart : EndsApart ending.toList) :
      EndsApart (front ++ ending).toList := by
    rw [String.toList_append]
    exact apart.append front.toList
  have quote : EndsApart "\"".toList := endsApart_of_not_suffix (by decide) (by decide)
  have bracket : EndsApart "]".toList := endsApart_of_not_suffix (by decide) (by decide)
  have number (bound : Int) : EndsApart (String.ofList (Json.integer bound).named).toList := by
    rw [String.toList_ofList]
    exact endsApart_writeInteger bound
  cases cause with
  | noAlternative => exact endsApart_of_not_suffix (by decide) (by decide)
  | unresolved reference => exact ordinary.elim
  | wrongType declared actual =>
      obtain ⟨data, rfl⟩ := ordinary
      exact behind _ (endsApart_typeName data)
  | notConstant constant value => exact behind _ quote
  | notOption options value => exact behind _ bracket
  | shortString length least =>
      obtain ⟨bound, rfl⟩ := ordinary
      exact behind _ (number bound)
  | noMatch pattern => exact behind _ quote
  | missing key => exact ordinary.elim
  | undeclared name =>
      have words : EndsApart "\" is not allowed".toList :=
        endsApart_of_not_suffix (by decide) (by decide)
      exact behind _ words
  | fewItems length least =>
      obtain ⟨bound, rfl⟩ := ordinary
      exact behind _ (number bound)

end Schema

namespace Check

open Schema Text

/-! ## Errors with and without a schema -/

/-- The text of the error that a schema has for an absent member. -/
def absenceText (name : String) : String :=
  "Schema: " ++ name ++ " — Required property \"" ++ name ++ "\" is missing"

theorem message_violationIssue_missing (name : String) :
    (violationIssue ⟨[], .missing (.words name)⟩).message = absenceText name := by
  have named : Json.named (.words name) = name.toList := by
    simp [Json.words, Json.named, CodePoints.ofString]
  have path_eq : (⟨[], .missing (.words name)⟩ : Violation).path [] = name := by
    simp [Violation.path, Location.path, memberPath, named]
  have message_eq : (⟨[], .missing (.words name)⟩ : Violation).message =
      "Required property \"" ++ String.ofList (Json.named (.words name)) ++ "\" is missing" := rfl
  rw [violationIssue, path_eq, message_eq, named, absenceText]
  simp [← String.toList_inj]

/-- A name can be read off the text of the error for its absence. -/
theorem absenceText_injective {first second : String}
    (same : absenceText first = absenceText second) : first = second := by
  have lists := congrArg String.toList same
  simp only [absenceText, String.toList_append] at lists
  have lengths := congrArg List.length lists
  simp only [List.length_append] at lengths
  have fronts := List.append_inj_left (List.append_inj_left (List.append_inj_left lists
    (by simp; omega)) (by simp; omega)) (by simp; omega)
  exact String.toList_inj.mp (List.append_cancel_left fronts)

private theorem suffix_absenceText (name : String) :
    "missing".toList <:+ (absenceText name).toList := by
  have word : "missing".toList <:+ "\" is missing".toList := by decide
  rw [absenceText, String.toList_append]
  exact word.trans (List.suffix_append _ _)

/-- The other errors of a schema have other texts, wherever they are reported. -/
theorem message_violationIssue_ne {violation : Violation} (ordinary : violation.cause.IsOrdinary)
    (name : String) : (violationIssue violation).message ≠ absenceText name := by
  intro same
  have ends := suffix_absenceText name
  rw [← same, violationIssue, String.toList_append] at ends
  exact endsApart_message ordinary _ ends

/-! ## Errors that do not depend on a schema -/

private theorem mem_structuralErrors_iff {kind : DataKind} {members : List (CodePoints × Json)}
    {issue : Issue} :
    issue ∈ structuralErrors kind members ↔
      (∃ name ∈ requiredMembers kind,
        Json.member? (CodePoints.ofString name) members = none ∧ missingIssue name = issue) ∨
      (kind = .policy ∧
        Json.member? (CodePoints.ofString "permissions") members = some (.array []) ∧
        emptyPermissions = issue) := by
  rw [structuralErrors.eq_def, List.mem_append]
  refine or_congr (by simp [and_assoc]) ?_
  cases kind with
  | policy =>
      simp only [isEmptyArray_iff, List.mem_ite_nil_right, List.mem_singleton, true_and]
      exact and_congr_right fun _ => eq_comm
  | identity => simp

private theorem message_missingIssue_injective {first second : String}
    (same : (missingIssue first).message = (missingIssue second).message) : first = second := by
  simpa [missingIssue] using same

private theorem message_missingIssue_ne (name : String) :
    (missingIssue name).message ≠ emptyPermissions.message := by
  intro same
  have lasts := congrArg (fun text : String => text.toList.getLast?) same
  simp [missingIssue, emptyPermissions, List.getLast?_cons, List.getLast?_append] at lasts

/-- The error for an absent member is there for the members that are required in any case. -/
theorem message_missingIssue_mem_iff {kind : DataKind} {members : List (CodePoints × Json)}
    {name : String} :
    (missingIssue name).message ∈ (structuralErrors kind members).map Issue.message ↔
      name ∈ requiredMembers kind ∧ Json.member? (CodePoints.ofString name) members = none := by
  simp only [List.mem_map, mem_structuralErrors_iff]
  constructor
  · rintro ⟨_, ⟨other, required, absent, rfl⟩ | ⟨-, -, rfl⟩, same⟩
    · exact message_missingIssue_injective same ▸ ⟨required, absent⟩
    · exact absurd same.symm (message_missingIssue_ne name)
  · rintro ⟨required, absent⟩
    exact ⟨_, .inl ⟨name, required, absent, rfl⟩, rfl⟩

theorem message_emptyPermissions_mem_iff {kind : DataKind} {members : List (CodePoints × Json)} :
    emptyPermissions.message ∈ (structuralErrors kind members).map Issue.message ↔
      kind = .policy ∧
        Json.member? (CodePoints.ofString "permissions") members = some (.array []) := by
  simp only [List.mem_map, mem_structuralErrors_iff]
  constructor
  · rintro ⟨_, ⟨name, -, -, rfl⟩ | ⟨policy, empty, -⟩, same⟩
    · exact absurd same (message_missingIssue_ne name)
    · exact ⟨policy, empty⟩
  · rintro ⟨policy, empty⟩
    exact ⟨_, .inr ⟨policy, empty, rfl⟩, rfl⟩

/-! ## Beginnings -/

theorem head_violationIssue (violation : Violation) :
    (violationIssue violation).message.toList.head? = some 'S' := by
  simp [violationIssue]

theorem head_of_mem_structuralErrors {kind : DataKind} {members : List (CodePoints × Json)}
    {issue : Issue} (member : issue ∈ structuralErrors kind members) :
    issue.message.toList.head? = some 'P' := by
  rcases mem_structuralErrors_iff.mp member with ⟨name, -, -, rfl⟩ | ⟨-, -, rfl⟩
  · simp [missingIssue]
  · rfl

/-- An error that begins as those of a schema is one. -/
theorem mem_messages_iff_of_head_schema {kind : DataKind} {members : List (CodePoints × Json)}
    {found : List Violation} {text : String} (head : text.toList.head? = some 'S') :
    text ∈ (found.map violationIssue ++ structuralErrors kind members).map Issue.message ↔
      ∃ violation ∈ found, (violationIssue violation).message = text := by
  have notStructural : text ∉ (structuralErrors kind members).map Issue.message := by
    intro member
    obtain ⟨issue, structural, rfl⟩ := List.mem_map.mp member
    rw [head_of_mem_structuralErrors structural] at head
    cases head
  rw [List.map_append, List.mem_append, or_iff_left notStructural]
  simp

/-- An error that begins otherwise does not depend on a schema. -/
theorem mem_messages_iff_of_head_ne {kind : DataKind} {members : List (CodePoints × Json)}
    {found : List Violation} {text : String} (head : text.toList.head? ≠ some 'S') :
    text ∈ (found.map violationIssue ++ structuralErrors kind members).map Issue.message ↔
      text ∈ (structuralErrors kind members).map Issue.message := by
  have notFound : text ∉ (found.map violationIssue).map Issue.message := by
    simp only [List.map_map, List.mem_map, Function.comp_apply]
    rintro ⟨violation, -, rfl⟩
    exact head (head_violationIssue violation)
  rw [List.map_append, List.mem_append, or_iff_right notFound]

end Check
end DiscoveryFiles
