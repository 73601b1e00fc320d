import DiscoveryFiles.Json.Printer
import DiscoveryFiles.Proofs.Json.Numeral
import Mathlib.Data.Nat.Digits.Defs

/-!
# Written integers

The reader takes a written integer off the front of a text, if what follows does not go on with the
numeral: with a further digit, a point or an exponent.
-/

namespace DiscoveryFiles
namespace Json

/-- Whether an integer has no more decimal digits than the reader allows. -/
def HasFewDigits (n : Int) : Prop :=
  (Nat.toDigits 10 n.natAbs).length ≤ digitLimit

instance (n : Int) : Decidable (HasFewDigits n) :=
  inferInstanceAs (Decidable (_ ≤ _))

namespace Parser

/-- Whether a text does not start with a digit. -/
def EndsDigits (text : Text) : Prop :=
  ∀ c ∈ text.head?, isDigit c = false

/-- Whether a text does not start with a character that a numeral could go on with. -/
def EndsNumeral (text : Text) : Prop :=
  ∀ c ∈ text.head?, isDigit c = false ∧ c ≠ '.' ∧ c ≠ 'e' ∧ c ≠ 'E'

theorem EndsNumeral.endsDigits {text : Text} (ends : EndsNumeral text) : EndsDigits text :=
  fun c here => (ends c here).1

theorem isDigit_of_mem_toDigits {n : Nat} {c : Char} (member : c ∈ Nat.toDigits 10 n) :
    isDigit c = true := by
  have digit : c.isDigit = true := Nat.isDigit_of_mem_toDigits (by norm_num) (by norm_num) member
  simp only [Char.isDigit, Bool.and_eq_true, decide_eq_true_eq] at digit
  exact (isDigit_iff c).mpr digit

private theorem decimalNumber_toDigits (n : Nat) : decimalNumber (Nat.toDigits 10 n) = n := by
  have read := Nat.ofDigitChars_ten_toDigits (n := n)
  rw [Nat.ofDigitChars_eq_foldl] at read
  simpa only [decimalNumber, Nat.mul_comm 10] using read

theorem toDigits_eq_cons (n : Nat) :
    ∃ first rest, Nat.toDigits 10 n = first :: rest ∧ isDigit first = true := by
  obtain ⟨first, rest, written⟩ :=
    List.exists_cons_of_ne_nil (Nat.toDigits_ne_nil (n := n) (b := 10))
  exact ⟨first, rest, written, isDigit_of_mem_toDigits (n := n) (by simp [written])⟩

/-- Only zero is written with a zero in front. -/
theorem writesInteger_toDigits {n : Nat} (positive : 0 < n) :
    WritesInteger (Nat.toDigits 10 n) := by
  refine ⟨fun c member => isDigit_of_mem_toDigits member, ?_⟩
  -- Without its last digit a number keeps its first one, and it is still positive.
  induction n using Nat.strong_induction_on with
  | h n induction =>
      rcases Nat.lt_or_ge n 10 with small | large
      · have nonzero : ∀ d < 10, 0 < d → d.digitChar ≠ '0' := by decide
        exact ⟨n.digitChar, [], Nat.toDigits_of_lt_base small, nonzero n small positive⟩
      · obtain ⟨first, rest, written, leading⟩ := induction (n / 10) (by omega) (by omega)
        refine ⟨first, rest ++ [(n % 10).digitChar], ?_, leading⟩
        rw [Nat.toDigits_of_base_le (by norm_num) large, written, List.cons_append]

private theorem constant?_writeInteger_append (n : Int) (rest : Text) :
    constant? (writeInteger n ++ rest) = none := by
  cases n with
  | ofNat n =>
      obtain ⟨first, digits, written, digit⟩ := toDigits_eq_cons n
      rw [writeInteger, written, List.cons_append, constant?_of_isDigit digit]
  | negSucc n =>
      obtain ⟨first, digits, written, digit⟩ := toDigits_eq_cons (n + 1)
      have named : 'I' ≠ first := by
        rintro rfl
        cases digit
      simp [writeInteger, written, constant?, constants, Text.begins, named]

private theorem value_numeral_toDigits {n : Int} (few : HasFewDigits n) :
    Numeral.value ⟨decide (n < 0), Nat.toDigits 10 n.natAbs, none, none⟩ = .ok (.integer n) := by
  have allowed : ¬digitLimit < (Nat.toDigits 10 n.natAbs).length := Nat.not_lt.mpr few
  simp only [Numeral.value, allowed, if_false, decimalNumber_toDigits, decide_eq_true_eq]
  split
  · rw [Int.ofNat_natAbs_of_nonpos (by omega), Int.neg_neg]
  · rw [Int.natAbs_of_nonneg (by omega)]

section Digits

variable {rest digits : Text} (ends : EndsDigits rest) (plain : ∀ c ∈ digits, isDigit c = true)

include ends plain

theorem takeWhile_isDigit_append : (digits ++ rest).takeWhile isDigit = digits := by
  have none_taken : rest.takeWhile isDigit = [] := by
    cases rest with
    | nil => rfl
    | cons c rest => exact List.takeWhile_cons_of_neg (by simp [ends c rfl])
  rw [List.takeWhile_append_of_pos plain, none_taken, List.append_nil]

theorem dropWhile_isDigit_append : (digits ++ rest).dropWhile isDigit = rest := by
  have none_dropped : rest.dropWhile isDigit = rest := by
    cases rest with
    | nil => rfl
    | cons c rest => exact List.dropWhile_cons_of_neg (by simp [ends c rfl])
  rw [List.dropWhile_append_of_pos plain, none_dropped]

end Digits

theorem wholePart?_of_writesInteger {digits rest : Text} (writes : WritesInteger digits)
    (ends : EndsDigits rest) : wholePart? (digits ++ rest) = some (digits, rest) := by
  obtain ⟨first, others, rfl, leading⟩ := writes.leading
  obtain ⟨digit, plain⟩ := List.forall_mem_cons.mp writes.plain
  simp [wholePart?, leading, digit, takeWhile_isDigit_append ends plain,
    dropWhile_isDigit_append ends plain]

section Rest

variable {rest : Text} (ends : EndsNumeral rest)

include ends

private theorem wholePart?_toDigits_append (n : Nat) :
    wholePart? (Nat.toDigits 10 n ++ rest) = some (Nat.toDigits 10 n, rest) := by
  rcases Nat.eq_zero_or_pos n with rfl | positive
  · simp [Nat.toDigits_zero, wholePart?]
  · exact wholePart?_of_writesInteger (writesInteger_toDigits positive) ends.endsDigits

private theorem fractionPart_of_endsNumeral : fractionPart rest = (none, rest) := by
  rw [fractionPart]
  rintro others rfl
  exact (ends '.' rfl).2.1 rfl

theorem exponentPart_of_endsNumeral : exponentPart rest = (none, rest) := by
  cases rest with
  | nil => rfl
  | cons c rest =>
      obtain ⟨-, -, lower, upper⟩ := ends c rfl
      simp [exponentPart, lower, upper]

/-- The reader takes the sign and the digits of a written integer, and nothing more. -/
theorem numeral?_writeInteger_append (n : Int) :
    numeral? (writeInteger n ++ rest) =
      some (⟨decide (n < 0), Nat.toDigits 10 n.natAbs, none, none⟩, rest) := by
  cases n with
  | ofNat n =>
      have unsigned : minusSign (Nat.toDigits 10 n ++ rest) =
          (false, Nat.toDigits 10 n ++ rest) := by
        obtain ⟨first, digits, written, digit⟩ := toDigits_eq_cons n
        rw [written, List.cons_append, minusSign_of_isDigit digit]
      simp [numeral?, writeInteger, unsigned, wholePart?_toDigits_append ends,
        fractionPart_of_endsNumeral ends, exponentPart_of_endsNumeral ends]
  | negSucc n =>
      simp [numeral?, writeInteger, minusSign, wholePart?_toDigits_append ends,
        fractionPart_of_endsNumeral ends, exponentPart_of_endsNumeral ends]

/-- A written integer is read back. -/
theorem atom_writeInteger_append {n : Int} (few : HasFewDigits n) :
    atom (writeInteger n ++ rest) = .ok (.integer n, rest) := by
  simp [atom, constant?_writeInteger_append, numeral?_writeInteger_append ends,
    value_numeral_toDigits few]

end Rest

end Parser
end Json
end DiscoveryFiles
