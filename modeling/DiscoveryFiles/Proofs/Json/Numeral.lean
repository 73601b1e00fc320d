import DiscoveryFiles.Json.Parser
import Mathlib.Data.List.TakeWhile

/-!
# Reading integers

How the reader takes a text of decimal digits: as one integer, unless the digits are too many.
-/

namespace DiscoveryFiles
namespace Json
namespace Parser

/-- Digits that write an integer: at least one, and no zero in front. -/
structure WritesInteger (digits : Text) : Prop where
  /-- All characters are digits. -/
  plain : ∀ c ∈ digits, isDigit c = true
  /-- There is a first one, and it is no zero. -/
  leading : ∃ first rest, digits = first :: rest ∧ first ≠ '0'

theorem isDigit_iff (c : Char) : isDigit c = true ↔ 48 ≤ c.toNat ∧ c.toNat ≤ 57 := by
  simp only [isDigit, Bool.and_eq_true, decide_eq_true_eq]
  exact Iff.rfl

section Digit

variable {c : Char} (digit : isDigit c = true) (rest : Text)

include digit

private theorem skipBlank_of_isDigit : skipBlank (c :: rest) = c :: rest := by
  have notBlank : isBlank c = false := by
    rw [isDigit_iff] at digit
    simp only [isBlank, Bool.or_eq_false_iff, decide_eq_false_iff_not]
    refine ⟨⟨⟨?_, ?_⟩, ?_⟩, ?_⟩ <;> rintro rfl <;> simp at digit
  simp [skipBlank, notBlank]

theorem constant?_of_isDigit : constant? (c :: rest) = none := by
  rw [isDigit_iff] at digit
  simp only [constant?, constants, Text.begins, Option.map_eq_none_iff, List.find?_eq_none]
  simp
  refine ⟨?_, ?_, ?_, ?_, ?_, ?_⟩ <;> rintro rfl <;> simp at digit

theorem value_of_isDigit (fuel depth : Nat) :
    value (fuel + 1) depth (c :: rest) = atom (c :: rest) := by
  rw [isDigit_iff] at digit
  rw [value]
  · rintro _ ⟨⟩
    simp at digit
  · rintro _ ⟨⟩
    simp at digit
  · rintro _ ⟨⟩
    simp at digit

theorem minusSign_of_isDigit : minusSign (c :: rest) = (false, c :: rest) := by
  rw [isDigit_iff] at digit
  rw [minusSign]
  rintro _ ⟨⟩
  simp at digit

end Digit

private theorem numeral?_of_writesInteger {digits : Text} (writes : WritesInteger digits) :
    numeral? digits = some (⟨false, digits, none, none⟩, []) := by
  obtain ⟨first, rest, rfl, leading⟩ := writes.leading
  obtain ⟨digit, others⟩ := List.forall_mem_cons.mp writes.plain
  have all_taken : rest.takeWhile isDigit = rest := List.takeWhile_eq_self_iff.mpr others
  have none_left : rest.dropWhile isDigit = [] := List.dropWhile_eq_nil_iff.mpr others
  simp [numeral?, minusSign_of_isDigit digit, wholePart?, leading, digit, all_taken, none_left,
    fractionPart, exponentPart]

/-- A text of digits beyond the limit is refused, with their number. -/
theorem parse_of_digitLimit_lt {digits : Text} (writes : WritesInteger digits)
    (many : digitLimit < digits.length) :
    parse digits = .error (.tooManyDigits digits.length) := by
  have taken := numeral?_of_writesInteger writes
  obtain ⟨first, rest, rfl, -⟩ := writes.leading
  have digit := writes.plain first List.mem_cons_self
  have unmarked : Text.begins (first :: rest) "\uFEFF" = false := by
    rw [isDigit_iff] at digit
    have differ : '\uFEFF' ≠ first := by
      rintro rfl
      simp at digit
    simp [Text.begins, List.isPrefixOf, differ]
  simp only [List.length_cons] at many
  simp [parse, document, unmarked, skipBlank_of_isDigit digit, value_of_isDigit digit, atom,
    constant?_of_isDigit digit, taken, Numeral.value, many, Except.mapError, Failure.report]

end Parser
end Json
end DiscoveryFiles
