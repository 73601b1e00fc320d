import DiscoveryFiles.Proofs.Pattern.Step

/-!
# Written patterns in tokens

No part of a written pattern ends within an escape, so that the tokens of the whole are those of
its parts.
-/

namespace DiscoveryFiles
namespace Pattern
namespace Parser

/-! ## Digits -/

private theorem numberIn_eq_ofDigits (base : Nat) (digits : CodePoints) :
    numberIn base digits = Nat.ofDigits base (digits.map digitValue).reverse := by
  rw [Nat.ofDigits_eq_foldr, List.foldr_reverse, List.foldl_map, numberIn]
  simp only [Nat.cast_id, Nat.mul_comm base, Nat.add_comm (digitValue _)]

theorem hexLetter_isHex (digit : HexDigit) :
    isHex digit.letter = true ∧ digitValue (.scalar digit.letter) = digit.value := by
  have all : ∀ (value : Fin 16) (capital : Bool),
      isHex (HexDigit.letter ⟨value, capital⟩) = true ∧
        digitValue (.scalar (HexDigit.letter ⟨value, capital⟩)) = value := by decide
  exact all digit.value digit.capital

theorem digitLetter_isDigit (digit : Fin 10) :
    isDigit (digitLetter digit) = true ∧ digitValue (.scalar (digitLetter digit)) = digit := by
  revert digit
  decide

theorem digitLetter_isOctal (digit : Fin 8) :
    isOctal (digitLetter digit) = true ∧ digitValue (.scalar (digitLetter digit)) = digit := by
  revert digit
  decide

theorem exists_digitLetter {c : Char} (digit : isDigit c = true) :
    ∃ value : Fin 10, c = digitLetter value := by
  simp only [isDigit, Bool.and_eq_true, decide_eq_true_eq, Char.le_def,
    UInt32.le_iff_toNat_le] at digit
  have bounds : '0'.toNat ≤ c.toNat ∧ c.toNat ≤ '9'.toNat := digit
  have zero : '0'.toNat = 48 := rfl
  have nine : '9'.toNat = 57 := rfl
  refine ⟨⟨c.toNat - 48, by omega⟩, ?_⟩
  have number_eq : '0'.toNat + (c.toNat - 48) = c.toNat := by omega
  rw [digitLetter, number_eq, Char.ofNat_toNat]

theorem isDigit_of_isOctal {c : Char} (octal : isOctal c = true) : isDigit c = true := by
  simp only [isOctal, isDigit, Bool.and_eq_true, decide_eq_true_eq] at octal ⊢
  exact ⟨octal.1, Char.le_trans octal.2 (by decide)⟩

private theorem exists_octalLetter {c : Char} (octal : isOctal c = true) :
    ∃ value : Fin 8, c = digitLetter value := by
  obtain ⟨value, rfl⟩ := exists_digitLetter (isDigit_of_isOctal octal)
  have small : ∀ value : Fin 10, isOctal (digitLetter value) = true → value.val < 8 := by decide
  exact ⟨⟨value, small value octal⟩, rfl⟩

/-- Octal digits do not go on where none follows. -/
theorem endsRun_isOctal {text : CodePoints} (lacks : LacksOctal text) : EndsRun isOctal text := by
  intro c head_eq
  rw [Bool.eq_false_iff]
  intro octal
  obtain ⟨value, rfl⟩ := exists_octalLetter octal
  exact lacks value head_eq

theorem numberIn_octal (digits : List (Fin 8)) :
    numberIn 8 (digits.map fun digit : Fin 8 => .scalar (digitLetter digit)) =
      octalNumber digits := by
  rw [numberIn_eq_ofDigits, List.map_map, octalNumber]
  simp only [Function.comp_def, fun digit => (digitLetter_isOctal digit).2]

theorem numberIn_hex (digits : List HexDigit) :
    numberIn 16 (digits.map fun digit => .scalar digit.letter) = hexNumber digits := by
  rw [numberIn_eq_ofDigits, List.map_map, hexNumber]
  simp only [Function.comp_def, fun digit => (hexLetter_isHex digit).2]

theorem numberIn_digitsWritten (digits : List (Fin 10)) :
    numberIn 10 (digitsWritten digits) = Nat.ofDigits 10 (digits.map (·.val)).reverse := by
  rw [numberIn_eq_ofDigits, digitsWritten, List.map_map]
  simp only [Function.comp_def, fun digit => (digitLetter_isDigit digit).2]

/-! ## Whole texts -/

theorem isWhole_digitsWritten (digits : List (Fin 10)) :
    IsWhole (digitsWritten digits) ∧ (tokensOf (digitsWritten digits)).length = digits.length := by
  have length_eq : (digitsWritten digits).length = digits.length := List.length_map _
  rw [← length_eq]
  refine IsWhole.of_forall _ ?_
  simp only [digitsWritten, List.forall_mem_map, ne_eq, CodePoint.scalar.injEq]
  rintro digit -
  revert digit
  decide

private theorem isWhole_escape (written : Escape) : IsWhole (.scalar '\\' :: written.body) := by
  cases written with
  | itself point => exact .escaped point
  | control letter => exact .escaped _
  | hex mark digits =>
      refine (IsWhole.escaped _).append (IsWhole.of_forall _ ?_).1
      simp only [List.forall_mem_map, ne_eq, CodePoint.scalar.injEq]
      rintro digit - backslash
      have isHex_eq := (hexLetter_isHex digit).1
      rw [backslash] at isHex_eq
      cases isHex_eq
  | octal first others =>
      refine (IsWhole.escaped _).append (IsWhole.of_forall _ ?_).1
      simp only [List.forall_mem_map, ne_eq, CodePoint.scalar.injEq]
      rintro digit -
      revert digit
      decide

private theorem isWhole_member (member : Member) : IsWhole member.written := by
  cases member with
  | plain point noEscape => exact .plain noEscape
  | escape written => exact isWhole_escape written
  | backspace => exact .escaped _

private theorem isWhole_part (part : Part) : IsWhole part.written := by
  cases part with
  | category => exact .escaped _
  | single member => exact isWhole_member member
  | range first last =>
      exact (isWhole_member first).append
        (((IsWhole.plain (by decide)).append (isWhole_member last)))

private theorem isWhole_parts (parts : List Part) : IsWhole (partsWritten parts) := by
  induction parts with
  | nil => exact .nil
  | cons part parts induction => exact (isWhole_part part).append induction

/-- Every part of a class has a token of its own. -/
theorem length_le_tokensOf_parts (parts : List Part) (text : CodePoints) :
    parts.length + (tokensOf text).length ≤ (tokensOf (partsWritten parts ++ text)).length := by
  induction parts with
  | nil => simp [partsWritten]
  | cons part parts induction =>
      have written_eq : partsWritten (part :: parts) ++ text =
          part.written ++ (partsWritten parts ++ text) := by
        rw [partsWritten, List.flatMap_cons, List.append_assoc]
        rfl
      have nonempty : part.written ≠ [] := by
        cases part with
        | category => simp [Part.written]
        | single member => cases member <;> simp [Part.written, Member.written]
        | range => simp [Part.written]
      have own := (isWhole_part part).tokensOf_pos nonempty
      rw [written_eq, (isWhole_part part).tokensOf_append, List.length_append, List.length_cons]
      omega

theorem isWhole_single (single : Single) : IsWhole single.written := by
  cases single with
  | dot | brace => exact .plain (by decide)
  | plain point ordinary => exact .plain (ordinary '\\' (by decide))
  | escape written => exact isWhole_escape written
  | category => exact .escaped _
  | bracket cls =>
      have sign : IsWhole (if cls.negated then [.scalar '^'] else []) := by
        cases cls.negated
        · exact .nil
        · exact .plain (by decide)
      exact (((IsWhole.plain (by decide)).append sign).append (isWhole_parts _)).append
        (.plain (by decide))

theorem isWhole_place (place : Place) : IsWhole place.written := by
  cases place with
  | caret | dollar => exact .plain (by decide)
  | start | finish | edge | noEdge => exact .escaped _

private theorem isWhole_repetition (repetition : Repetition) : IsWhole repetition.written := by
  have sign (c : Char) (noEscape : c ≠ '\\') : IsWhole [.scalar c] :=
    .plain (by simpa using noEscape)
  cases repetition with
  | star | plus | question => exact .plain (by decide)
  | exactly count =>
      exact ((sign '\x7b' (by decide)).append (isWhole_digitsWritten _).1).append
        (sign '\x7d' (by decide))
  | atLeast least =>
      exact ((sign '\x7b' (by decide)).append (isWhole_digitsWritten _).1).append
        ((sign ',' (by decide)).append (sign '\x7d' (by decide)))
  | upTo least most =>
      exact (((sign '\x7b' (by decide)).append (isWhole_digitsWritten _).1).append
        ((sign ',' (by decide)).append (isWhole_digitsWritten _).1)).append
          (sign '\x7d' (by decide))

theorem isWhole_quantifier (quantifier : Option Quantifier) :
    IsWhole (quantifierWritten quantifier) := by
  cases quantifier with
  | none => exact .nil
  | some quantifier =>
      refine (isWhole_repetition quantifier.repetition).append ?_
      cases quantifier.isLazy
      · exact .nil
      · exact .plain (by decide)

/-- An identifier holds no signs that close a name or start an escape. -/
theorem ne_of_isIdentifier {name : CodePoints} (identifies : name.isIdentifier = true)
    {point : CodePoint} (member : point ∈ name) : point ≠ .scalar '\\' ∧ point ≠ .scalar '>' := by
  have continues : Text.continuesIdentifier point.number = true := by
    cases name with
    | nil => cases member
    | cons first others =>
        simp only [CodePoints.isIdentifier, Bool.and_eq_true, List.all_eq_true] at identifies
        rcases List.mem_cons.mp member with rfl | member
        · simp only [Text.continuesIdentifier, identifies.1, Bool.true_or]
        · exact identifies.2 point member
  constructor
  · rintro rfl
    revert continues
    decide +kernel
  · rintro rfl
    revert continues
    decide +kernel

theorem isWhole_mark (mark : GroupMark) : IsWhole mark.written := by
  have sign (c : Char) (noEscape : c ≠ '\\') : IsWhole [.scalar c] :=
    .plain (by simpa using noEscape)
  have opens := (sign '(' (by decide)).append (sign '?' (by decide))
  cases mark with
  | plain => exact sign '(' (by decide)
  | silent => exact opens.append (sign ':' (by decide))
  | named name identifies =>
      have letters : IsWhole name :=
        (IsWhole.of_forall name fun point member => (ne_of_isIdentifier identifies member).1).1
      exact ((opens.append ((sign 'P' (by decide)).append (sign '<' (by decide)))).append
        letters).append (sign '>' (by decide))

mutual

theorem isWhole_expression : ∀ expression : Expression, IsWhole expression.written
  | .last row => isWhole_row row
  | .either row others =>
      (isWhole_row row).append ((IsWhole.plain (by decide)).append (isWhole_expression others))

theorem isWhole_row : ∀ row : Row, IsWhole row.written
  | .done => .nil
  | .place place behind => (isWhole_place place).append (isWhole_row behind)
  | .single single quantifier behind =>
      ((isWhole_single single).append (isWhole_quantifier quantifier)).append (isWhole_row behind)
  | .group mark body quantifier behind =>
      (((isWhole_mark mark).append (isWhole_expression body)).append
        ((IsWhole.plain (by decide)).append (isWhole_quantifier quantifier))).append
          (isWhole_row behind)

end

end Parser
end Pattern
end DiscoveryFiles
