import DiscoveryFiles.Text.Utf8

/-!
# Reading what was written

The bytes of a text are read back as that text.
-/

namespace DiscoveryFiles
namespace Utf8

theorem piecesFrom_none_cons (byte : UInt8) (rest : List UInt8) :
    piecesFrom none (byte :: rest) = (start byte).1 ++ piecesFrom (start byte).2 rest := by
  rw [piecesFrom]

section Continuation

variable {char : Unfinished} {byte : UInt8} (low : char.low ≤ byte.toNat)
  (high : byte.toNat ≤ char.high) (rest : List UInt8)

include low high

/-- The last byte of a character ends it. -/
theorem piecesFrom_last (last : char.more = 0) :
    piecesFrom (some char) (byte :: rest) =
      .char (Char.ofNat (char.value * 64 + (byte.toNat - 0x80))) :: piecesFrom none rest := by
  rw [piecesFrom]
  simp only [advance, low, high, and_self, if_true, last, List.cons_append, List.nil_append]

/-- A byte before the last leaves the character unfinished. -/
theorem piecesFrom_inner {more : Nat} (inner : char.more = more + 1) :
    piecesFrom (some char) (byte :: rest) =
      piecesFrom
        (some ⟨byte :: char.seen, char.value * 64 + (byte.toNat - 0x80), 0x80, 0xBF, more⟩)
        rest := by
  rw [piecesFrom]
  simp only [advance, low, high, and_self, if_true, inner, List.nil_append]

end Continuation

section Start

variable {byte : UInt8}

theorem start_one (below : byte.toNat < 0x80) :
    start byte = ([.char (Char.ofNat byte.toNat)], none) := by
  simp only [start, below, if_true]

theorem start_two (least : 0xC2 ≤ byte.toNat) (below : byte.toNat < 0xE0) :
    start byte = ([], some ⟨[byte], byte.toNat - 0xC0, 0x80, 0xBF, 0⟩) := by
  have notOne : ¬ byte.toNat < 0x80 := by omega
  have notInvalid : ¬ byte.toNat < 0xC2 := by omega
  simp only [start, notOne, notInvalid, below, if_true, if_false]

theorem start_three (least : 0xE0 ≤ byte.toNat) (below : byte.toNat < 0xF0) :
    start byte =
      ([], some ⟨[byte], byte.toNat - 0xE0, if byte.toNat = 0xE0 then 0xA0 else 0x80,
        if byte.toNat = 0xED then 0x9F else 0xBF, 1⟩) := by
  have notOne : ¬ byte.toNat < 0x80 := by omega
  have notInvalid : ¬ byte.toNat < 0xC2 := by omega
  have notTwo : ¬ byte.toNat < 0xE0 := by omega
  simp only [start, notOne, notInvalid, notTwo, below, if_true, if_false]

theorem start_four (least : 0xF0 ≤ byte.toNat) (below : byte.toNat < 0xF5) :
    start byte =
      ([], some ⟨[byte], byte.toNat - 0xF0, if byte.toNat = 0xF0 then 0x90 else 0x80,
        if byte.toNat = 0xF4 then 0x8F else 0xBF, 2⟩) := by
  have notOne : ¬ byte.toNat < 0x80 := by omega
  have notInvalid : ¬ byte.toNat < 0xC2 := by omega
  have notTwo : ¬ byte.toNat < 0xE0 := by omega
  have notThree : ¬ byte.toNat < 0xF0 := by omega
  simp only [start, notOne, notInvalid, notTwo, notThree, below, if_true, if_false]

end Start

section Characters

variable {n : Nat} (rest : List UInt8)

private theorem piecesFrom_one (high : n ≤ 0x7F) :
    piecesFrom none (UInt8.ofNat n :: rest) = .char (Char.ofNat n) :: piecesFrom none rest := by
  have first := UInt8.toNat_ofNat_of_lt' (show n < 256 by omega)
  rw [piecesFrom_none_cons, start_one (by omega), first, List.cons_append, List.nil_append]

private theorem piecesFrom_two (low : 0x7F < n) (high : n ≤ 0x7FF) :
    piecesFrom none
        (UInt8.ofNat (n / 64 % 0x20 + 0xC0) :: UInt8.ofNat (n % 0x40 + 0x80) :: rest) =
      .char (Char.ofNat n) :: piecesFrom none rest := by
  have first := UInt8.toNat_ofNat_of_lt' (show n / 64 % 0x20 + 0xC0 < 256 by omega)
  have second := UInt8.toNat_ofNat_of_lt' (show n % 0x40 + 0x80 < 256 by omega)
  have number_eq : (n / 64 % 0x20 + 0xC0 - 0xC0) * 64 + (n % 0x40 + 0x80 - 0x80) = n := by omega
  rw [piecesFrom_none_cons, start_two (by omega) (by omega), List.nil_append,
    piecesFrom_last (by simp only; omega) (by simp only; omega) _ rfl, first, second, number_eq]

private theorem piecesFrom_three (low : 0x7FF < n) (high : n ≤ 0xFFFF)
    (valid : n < 0xD800 ∨ 0xDFFF < n) :
    piecesFrom none
        (UInt8.ofNat (n / 4096 % 0x10 + 0xE0) :: UInt8.ofNat (n / 64 % 0x40 + 0x80) ::
          UInt8.ofNat (n % 0x40 + 0x80) :: rest) =
      .char (Char.ofNat n) :: piecesFrom none rest := by
  have first := UInt8.toNat_ofNat_of_lt' (show n / 4096 % 0x10 + 0xE0 < 256 by omega)
  have second := UInt8.toNat_ofNat_of_lt' (show n / 64 % 0x40 + 0x80 < 256 by omega)
  have third := UInt8.toNat_ofNat_of_lt' (show n % 0x40 + 0x80 < 256 by omega)
  have number_eq : ((n / 4096 % 0x10 + 0xE0 - 0xE0) * 64 + (n / 64 % 0x40 + 0x80 - 0x80)) * 64 +
      (n % 0x40 + 0x80 - 0x80) = n := by omega
  rw [piecesFrom_none_cons, start_three (by omega) (by omega), List.nil_append,
    piecesFrom_inner (by simp only; split <;> omega) (by simp only; split <;> omega) _ rfl,
    piecesFrom_last (by simp only; omega) (by simp only; omega) _ rfl, first, second, third,
    number_eq]

private theorem piecesFrom_four (low : 0xFFFF < n) (high : n < 0x110000) :
    piecesFrom none
        (UInt8.ofNat (n / 262144 % 0x08 + 0xF0) :: UInt8.ofNat (n / 4096 % 0x40 + 0x80) ::
          UInt8.ofNat (n / 64 % 0x40 + 0x80) :: UInt8.ofNat (n % 0x40 + 0x80) :: rest) =
      .char (Char.ofNat n) :: piecesFrom none rest := by
  have first := UInt8.toNat_ofNat_of_lt' (show n / 262144 % 0x08 + 0xF0 < 256 by omega)
  have second := UInt8.toNat_ofNat_of_lt' (show n / 4096 % 0x40 + 0x80 < 256 by omega)
  have third := UInt8.toNat_ofNat_of_lt' (show n / 64 % 0x40 + 0x80 < 256 by omega)
  have fourth := UInt8.toNat_ofNat_of_lt' (show n % 0x40 + 0x80 < 256 by omega)
  have number_eq :
      (((n / 262144 % 0x08 + 0xF0 - 0xF0) * 64 + (n / 4096 % 0x40 + 0x80 - 0x80)) * 64 +
        (n / 64 % 0x40 + 0x80 - 0x80)) * 64 + (n % 0x40 + 0x80 - 0x80) = n := by omega
  rw [piecesFrom_none_cons, start_four (by omega) (by omega), List.nil_append,
    piecesFrom_inner (by simp only; split <;> omega) (by simp only; split <;> omega) _ rfl,
    piecesFrom_inner (by simp only; omega) (by simp only; omega) _ rfl,
    piecesFrom_last (by simp only; omega) (by simp only; omega) _ rfl, first, second, third,
    fourth, number_eq]

end Characters

/-- The bytes of a character are read as that character. -/
theorem piecesFrom_utf8EncodeChar (c : Char) (rest : List UInt8) :
    piecesFrom none (String.utf8EncodeChar c ++ rest) = .char c :: piecesFrom none rest := by
  have valid := c.valid
  simp only [UInt32.isValidChar, Nat.isValidChar] at valid
  have number_eq : Char.ofNat c.val.toNat = c := Char.ofNat_toNat c
  rw [String.utf8EncodeChar]
  split
  next one => rw [List.cons_append, List.nil_append, piecesFrom_one _ one, number_eq]
  split
  next two =>
    simp only [List.cons_append, List.nil_append]
    rw [piecesFrom_two _ (by omega) two, number_eq]
  split
  next three =>
    simp only [List.cons_append, List.nil_append]
    rw [piecesFrom_three _ (by omega) three (by omega), number_eq]
  next four =>
    simp only [List.cons_append, List.nil_append]
    rw [piecesFrom_four _ (by omega) (by omega), number_eq]

theorem pieces_encode (text : Text) : pieces (encode text) = text.map .char := by
  rw [pieces]
  induction text with
  | nil => rfl
  | cons c text induction =>
      rw [encode, List.flatMap_cons, piecesFrom_utf8EncodeChar, ← encode, induction, List.map_cons]

theorem textFrom_map_char (offset : Nat) (text : Text) :
    textFrom offset (text.map .char) = .ok text := by
  induction text generalizing offset with
  | nil => rfl
  | cons c text induction =>
      rw [List.map_cons, textFrom, induction]
      rfl

/-- The bytes of a text are text, and the same. -/
theorem decode_encode (text : Text) : decode (encode text) = .ok text := by
  rw [decode, pieces_encode, textFrom_map_char]

end Utf8

/-- A text without carriage returns has its line breaks unified already. -/
theorem Text.unifyBreaks_eq_self {text : Text} (unbroken : '\r' ∉ text) :
    text.unifyBreaks = text := by
  induction text with
  | nil => rfl
  | cons c rest induction =>
      obtain ⟨differ, others⟩ := not_or.mp (mt List.mem_cons.mpr unbroken)
      rw [unifyBreaks, induction others]
      · rintro _ rfl
        exact absurd rfl differ
      · rintro rfl
        exact differ rfl

end DiscoveryFiles
