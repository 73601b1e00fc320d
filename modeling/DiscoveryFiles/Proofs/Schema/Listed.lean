import DiscoveryFiles.Proofs.Json.SameValue
import DiscoveryFiles.Proofs.Schema.Demand

/-!
# Constants and options

A schema can list the values that it accepts.  They accept what equals one of them, so a truth value
inside an array or an object passes for the number that it counts as.
-/

namespace DiscoveryFiles
namespace Schema

open Json

section Listed

variable {location : Location} {keywords : List (CodePoints × Json)} {left right : Json}

private theorem constantViolations_eq_nil_iff_equal
    (given : keyword? "const" keywords = some right) :
    constantViolations location keywords left = [] ↔ left.equal right = true := by
  simp [constantViolations_eq_nil_iff, given]

private theorem exists_optionViolations (location : Location) (left : Json) {listed : Json}
    {options : List Json} (given : keyword? "enum" keywords = some listed)
    (listed_eq : elements listed = .ok options) :
    ∃ found, optionViolations location keywords left = .ok found ∧
      (found = [] ↔ ∃ option ∈ options, left.equal option = true) := by
  have returned : ∃ found, optionViolations location keywords left = .ok found := by
    rw [optionViolations, given]
    simp only [listed_eq, ok_bind]
    split
    · exact ⟨_, rfl⟩
    · exact ⟨_, rfl⟩
  obtain ⟨found, found_eq⟩ := returned
  refine ⟨found, found_eq, ?_⟩
  simp [optionViolations_eq_nil_iff found_eq, given, listed_eq]

/-- Two values equal each other when they are the same with the truth values inside them counted, so
the same values are those that equal each other without a truth value that meets its number.
Constants and options accept what is the same in this wider sense. -/
theorem equal_and_listed_iff (leftProper : IsProper left) (rightProper : IsProper right)
    (location : Location) (keywords : List (CodePoints × Json)) :
    (left.equal right = true ↔ SameValue left.countedInside right.countedInside) ∧
      (SameValue left right ↔ left.equal right = true ∧ ¬ Clashes left right) ∧
      (keyword? "const" keywords = some right →
        (constantViolations location keywords left = [] ↔
          SameValue left.countedInside right.countedInside)) ∧
      ∀ listed options, keyword? "enum" keywords = some listed → elements listed = .ok options →
        (∀ option ∈ options, IsProper option) →
        ∃ found, optionViolations location keywords left = .ok found ∧
          (found = [] ↔
            ∃ option ∈ options, SameValue left.countedInside option.countedInside) := by
  refine ⟨equal_iff_sameValue leftProper rightProper, sameValue_iff_equal leftProper rightProper,
    fun given => ?_, fun listed options given listed_eq optionsProper => ?_⟩
  · rw [constantViolations_eq_nil_iff_equal given]
    exact equal_iff_sameValue leftProper rightProper
  · obtain ⟨found, found_eq, found_iff⟩ :=
      exists_optionViolations location left given listed_eq
    refine ⟨found, found_eq, found_iff.trans (exists_congr fun option => ?_)⟩
    exact and_congr_right fun member =>
      equal_iff_sameValue leftProper (optionsProper option member)

private theorem isProper_arrayOf {item : Json} (proper : IsProper item) :
    IsProper (.array [item]) :=
  .array (List.forall_mem_singleton.mpr proper)

/-- An array of a truth value against one of a number, which a schema gives as its constant and as
its only option. -/
theorem equal_and_listed_iff_truthInside :
    let truths := Json.array [.boolean true]
    let ones := Json.array [.integer 1]
    let keywords := [
      (CodePoints.ofString "const", ones), (CodePoints.ofString "enum", .array [ones])]
    IsProper truths ∧ IsProper ones ∧ keyword? "const" keywords = some ones ∧
      keyword? "enum" keywords = some (.array [ones]) ∧ elements (.array [ones]) = .ok [ones] ∧
      (truths.equal ones = true ↔ SameValue truths.countedInside ones.countedInside) ∧
      (SameValue truths ones ↔ truths.equal ones = true ∧ ¬ Clashes truths ones) ∧
      (constantViolations [] keywords truths = [] ↔
        SameValue truths.countedInside ones.countedInside) ∧
      ∃ found, optionViolations [] keywords truths = .ok found ∧
        (found = [] ↔ ∃ option ∈ [ones], SameValue truths.countedInside option.countedInside) := by
  intro truths ones keywords
  have truthsProper : IsProper truths := isProper_arrayOf (.boolean true)
  have onesProper : IsProper ones := isProper_arrayOf (.integer 1)
  have constant : keyword? "const" keywords = some ones := by simp [keywords]
  have options : keyword? "enum" keywords = some (.array [ones]) := by simp [keywords]
  obtain ⟨equal_iff, same_iff, constant_iff, option_iff⟩ :=
    equal_and_listed_iff truthsProper onesProper [] keywords
  exact ⟨truthsProper, onesProper, constant, options, rfl, equal_iff, same_iff,
    constant_iff constant,
    option_iff _ _ options rfl (List.forall_mem_singleton.mpr onesProper)⟩

/-- An array of a truth value equals one of a number, which is not the same value, and a schema that
gives the one as its constant accepts the other. -/
theorem equal_truthInside :
    let truths := Json.array [.boolean true]
    let ones := Json.array [.integer 1]
    IsProper truths ∧ IsProper ones ∧ truths.equal ones = true ∧
      constantViolations [] [(CodePoints.ofString "const", ones)] truths = [] ∧
      ¬ SameValue truths ones := by
  intro truths ones
  have equal_ones : truths.equal ones = true := by decide
  refine ⟨isProper_arrayOf (.boolean true), isProper_arrayOf (.integer 1), equal_ones, ?_, ?_⟩
  · simp [constantViolations, equal_ones]
  · simp [truths, ones, sameValue_array_iff]

end Listed

end Schema
end DiscoveryFiles
