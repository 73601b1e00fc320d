import DiscoveryFiles.Text.Basic

/-!
# Code points

An escape in a JSON string can name half of a surrogate pair.  Such a half stays one character of
the string, so strings are lists of code points and not of characters.
-/

namespace DiscoveryFiles

/-- A character, or one half of a surrogate pair that stands alone. -/
inductive CodePoint where
  /-- A Unicode character. -/
  | scalar (c : Char)
  /-- The code point that lies this far above U+D800. -/
  | surrogate (offset : Fin 0x800)
  deriving DecidableEq, Repr

namespace CodePoint

/-- The number of a code point. -/
def number : CodePoint → Nat
  | scalar c => c.toNat
  | surrogate offset => 0xD800 + offset

/-- The code point with a given number; numbers outside Unicode give the null character. -/
def ofNumber (n : Nat) : CodePoint :=
  if h : 0xD800 ≤ n ∧ n < 0xE000 then surrogate ⟨n - 0xD800, by omega⟩ else scalar (Char.ofNat n)

/-- The character to show for a code point: half of a pair is shown as the replacement character. -/
def shown : CodePoint → Char
  | scalar c => c
  | surrogate _ => Char.ofNat 0xFFFD

/-- The character that the two halves of a surrogate pair name together. -/
def pair? : CodePoint → CodePoint → Option Char
  | surrogate leading, surrogate trailing =>
      if leading.val < 0x400 ∧ 0x400 ≤ trailing.val then
        some (Char.ofNat (0x10000 + leading * 0x400 + (trailing - 0x400)))
      else none
  | _, _ => none

end CodePoint

/-- A string that may hold halves of surrogate pairs. -/
abbrev CodePoints := List CodePoint

namespace CodePoints

/-- The code points of a text. -/
def ofText (text : Text) : CodePoints :=
  text.map CodePoint.scalar

/-- The code points of the given words. -/
def ofString (words : String) : CodePoints :=
  ofText words.toList

/-- The text to show for a string. -/
def shown (points : CodePoints) : Text :=
  points.map CodePoint.shown

/-- The words to show for a string. -/
def words (points : CodePoints) : String :=
  String.ofList points.shown

/-- Read every two neighbouring halves of a surrogate pair as the character that they name. -/
def joinPairs : CodePoints → CodePoints
  | [] => []
  | [point] => [point]
  | first :: second :: rest =>
      match first.pair? second with
      | some c => CodePoint.scalar c :: joinPairs rest
      | none => first :: joinPairs (second :: rest)

@[simp]
theorem shown_ofText (text : Text) : (ofText text).shown = text := by
  simp [ofText, shown, Function.comp_def, CodePoint.shown]

end CodePoints
end DiscoveryFiles
