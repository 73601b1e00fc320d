import DiscoveryFiles.Json.Printer
import DiscoveryFiles.Json.Parser

/-!
# Written strings

The reader undoes the escapes of a written string of characters.  A half of a surrogate pair that
stands alone has no notation, so the strings are those of texts.
-/

namespace DiscoveryFiles

namespace CodePoints

private theorem joinPairs_ofText (text : Text) : joinPairs (ofText text) = ofText text := by
  induction text with
  | nil => rfl
  | cons c text induction =>
      cases text with
      | nil => rfl
      | cons d text =>
          simp only [ofText, List.map_cons] at induction ⊢
          rw [joinPairs, CodePoint.pair?, induction]
          rintro _ _ ⟨⟩

end CodePoints

namespace CodePoint

/-- No character has the number of half of a surrogate pair. -/
theorem not_between_surrogates (c : Char) : ¬(0xD800 ≤ c.toNat ∧ c.toNat < 0xE000) := by
  rcases c.valid with low | ⟨high, -⟩
  · exact fun between => absurd low (Nat.not_lt.mpr between.1)
  · exact fun between => absurd high (Nat.not_lt.mpr (Nat.le_of_lt_succ between.2))

private theorem ofNumber_toNat (c : Char) : ofNumber c.toNat = .scalar c := by
  rw [ofNumber, dif_neg (not_between_surrogates c), Char.ofNat_toNat]

end CodePoint

namespace Json
namespace Parser

section Body

variable (opening : Text) {c : Char}

theorem stringBody_escaped {letter : Char} (known : escaped? letter = some c) (rest : Text) :
    stringBody opening ('\\' :: letter :: rest) =
      before (.scalar c) (stringBody opening rest) := by
  have notNumeric : letter ≠ 'u' := by
    rintro rfl
    cases known
  simp [stringBody, notNumeric, known]

/-- An escape by number needs a character behind it. -/
theorem stringBody_hexDigits (control : c.toNat < 0x20) (next : Char) (rest : Text) :
    stringBody opening ('\\' :: 'u' :: CodePoints.hexDigits 4 c.toNat ++ next :: rest) =
      before (.scalar c) (stringBody opening (next :: rest)) := by
  have readBack : ∀ n < 0x20,
      hexNumber? (Nat.digitChar (n >>> 12 % 16)) (Nat.digitChar (n >>> 8 % 16))
        (Nat.digitChar (n >>> 4 % 16)) (Nat.digitChar (n >>> 0 % 16)) = some n := by
    decide
  have written : CodePoints.hexDigits 4 c.toNat =
      [Nat.digitChar (c.toNat >>> 12 % 16), Nat.digitChar (c.toNat >>> 8 % 16),
        Nat.digitChar (c.toNat >>> 4 % 16), Nat.digitChar (c.toNat >>> 0 % 16)] := rfl
  simp only [written, List.cons_append, List.nil_append]
  rw [stringBody, readBack _ control]
  simp only [CodePoint.ofNumber_toNat]

theorem stringBody_unescaped (unmarked : c ≠ '"' ∧ c ≠ '\\') (shown : ¬c.toNat < 0x20)
    (rest : Text) :
    stringBody opening (c :: rest) = before (.scalar c) (stringBody opening rest) := by
  simp [stringBody, unmarked, shown]

/-- What is written for a character is read as this character. -/
theorem stringBody_writePoint_append (next : Char) (rest : Text) :
    stringBody opening (writePoint (.scalar c) ++ next :: rest) =
      before (.scalar c) (stringBody opening (next :: rest)) := by
  unfold writePoint
  split
  case h_1 same | h_2 same | h_3 same | h_4 same | h_5 same | h_6 same | h_7 same =>
    cases same
    exact stringBody_escaped opening rfl _
  next point quote backslash _ _ _ _ _ =>
    split
    next control => exact stringBody_hexDigits opening control next rest
    next shown =>
      have unmarked : c ≠ '"' ∧ c ≠ '\\' :=
        ⟨fun same => quote (by rw [same]), fun same => backslash (by rw [same])⟩
      exact stringBody_unescaped opening unmarked shown _

end Body

theorem writeString_append (points : CodePoints) (rest : Text) :
    writeString points ++ rest = '"' :: (points.flatMap writePoint ++ '"' :: rest) := by
  simp [writeString]

private theorem stringBody_flatMap_writePoint (opening text rest : Text) :
    stringBody opening ((CodePoints.ofText text).flatMap writePoint ++ '"' :: rest) =
      .ok (CodePoints.ofText text, rest) := by
  induction text with
  | nil => simp [CodePoints.ofText, stringBody]
  | cons c text induction =>
      -- The closing quote is behind the last escape, so there is always a further character.
      obtain ⟨next, others, further⟩ :
          ∃ next others, (CodePoints.ofText text).flatMap writePoint ++ '"' :: rest =
            next :: others := List.exists_cons_of_ne_nil (by simp)
      calc stringBody opening ((CodePoints.ofText (c :: text)).flatMap writePoint ++ '"' :: rest)
          = stringBody opening (writePoint (.scalar c) ++ next :: others) := by
            rw [← further]
            simp [CodePoints.ofText]
        _ = before (.scalar c) (stringBody opening (next :: others)) :=
            stringBody_writePoint_append opening next others
        _ = .ok (CodePoints.ofText (c :: text), rest) := by
            rw [← further, induction]
            rfl

/-- A written string of characters is read back. -/
theorem string_flatMap_writePoint (text rest : Text) :
    string ((CodePoints.ofText text).flatMap writePoint ++ '"' :: rest) =
      .ok (CodePoints.ofText text, rest) := by
  rw [string, stringBody_flatMap_writePoint]
  simp only [CodePoints.joinPairs_ofText]

end Parser
end Json
end DiscoveryFiles
