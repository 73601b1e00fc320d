import DiscoveryFiles.Check.Empty

/-!
# Errors among findings

When checks that are put together find no errors, and what holds of all their issues.
-/

namespace DiscoveryFiles
namespace Findings

@[simp]
theorem errors_none : none.errors = [] := rfl

@[simp]
theorem errors_error (message : String) : (error message).errors = [⟨message, .none⟩] := rfl

@[simp]
theorem errors_errorAt (line : Nat) (message : String) :
    (errorAt line message).errors = [⟨message, some line⟩] := rfl

@[simp]
theorem errors_warning (message : String) : (warning message).errors = [] := rfl

@[simp]
theorem warnings_none : none.warnings = [] := rfl

@[simp]
theorem warnings_error (message : String) : (error message).warnings = [] := rfl

@[simp]
theorem warnings_errorAt (line : Nat) (message : String) :
    (errorAt line message).warnings = [] := rfl

@[simp]
theorem warnings_warning (message : String) :
    (warning message).warnings = [⟨message, .none⟩] := rfl

theorem errors_require (met : Bool) (findings : Findings) :
    (require met findings).errors = if met then [] else findings.errors := by
  cases met <;> rfl

theorem warnings_require (met : Bool) (findings : Findings) :
    (require met findings).warnings = if met then [] else findings.warnings := by
  cases met <;> rfl

/-- A requirement leads to no errors if it is met or if breaking it is none. -/
theorem errors_require_eq_nil_iff {met : Bool} {findings : Findings} :
    (require met findings).errors = [] ↔ met = true ∨ findings.errors = [] := by
  cases met <;> simp [require]

theorem errors_all (findings : List Findings) :
    (all findings).errors = findings.flatMap errors := by
  induction findings with
  | nil => rfl
  | cons first others induction =>
      rw [List.flatMap_cons, ← induction]
      rfl

theorem errors_all_eq_nil_iff {findings : List Findings} :
    (all findings).errors = [] ↔ ∀ finding ∈ findings, finding.errors = [] := by
  rw [errors_all, List.flatMap_eq_nil_iff]

/-! ## All issues -/

section Every

variable {ofError ofWarning : Issue → Prop} {message : String}

/-- All errors have one property, and all warnings have another one. -/
def Every (ofError ofWarning : Issue → Prop) (findings : Findings) : Prop :=
  (∀ issue ∈ findings.errors, ofError issue) ∧ ∀ issue ∈ findings.warnings, ofWarning issue

@[simp]
theorem every_none : none.Every ofError ofWarning := by
  simp [Every]

@[simp]
theorem every_error : (error message).Every ofError ofWarning ↔ ofError ⟨message, .none⟩ := by
  simp [Every]

@[simp]
theorem every_errorAt {line : Nat} :
    (errorAt line message).Every ofError ofWarning ↔ ofError ⟨message, some line⟩ := by
  simp [Every]

@[simp]
theorem every_warning : (warning message).Every ofError ofWarning ↔ ofWarning ⟨message, .none⟩ := by
  simp [Every]

@[simp]
theorem every_append {first second : Findings} :
    (first ++ second).Every ofError ofWarning ↔
      first.Every ofError ofWarning ∧ second.Every ofError ofWarning := by
  simp only [Every, errors_append, warnings_append, List.forall_mem_append]
  exact and_and_and_comm

@[simp]
theorem every_all {findings : List Findings} :
    (all findings).Every ofError ofWarning ↔
      ∀ finding ∈ findings, finding.Every ofError ofWarning := by
  induction findings with
  | nil => exact iff_of_true every_none (by simp)
  | cons first others induction =>
      rw [List.forall_mem_cons, ← induction]
      exact every_append

/-- Where a requirement is not met, all that it leads to has to have the properties. -/
@[simp]
theorem every_require {met : Bool} {findings : Findings} :
    (require met findings).Every ofError ofWarning ↔
      met = true ∨ findings.Every ofError ofWarning := by
  cases met <;> simp [require]

end Every

end Findings

namespace Check

/-- Where a blank text is an error, a text without errors has ink, and nothing else is found. -/
theorem errors_unless_isBlank_eq_nil_iff {content : Text} {message : String}
    {findings : Findings} :
    (if isBlank content then Findings.error message else findings).errors = [] ↔
      isBlank content = false ∧ findings.errors = [] := by
  cases isBlank content <;> simp

end Check
end DiscoveryFiles
