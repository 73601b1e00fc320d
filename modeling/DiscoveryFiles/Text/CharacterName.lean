import DiscoveryFiles.Text.CharacterName.Aliases
import DiscoveryFiles.Text.CharacterName.Alphabets
import DiscoveryFiles.Text.CharacterName.AncientSigns
import DiscoveryFiles.Text.CharacterName.AsianLetters
import DiscoveryFiles.Text.CharacterName.Forms
import DiscoveryFiles.Text.CharacterName.FurtherLetters
import DiscoveryFiles.Text.CharacterName.Historic
import DiscoveryFiles.Text.CharacterName.Notations
import DiscoveryFiles.Text.CharacterName.Pictures
import DiscoveryFiles.Text.CharacterName.Punctuation
import DiscoveryFiles.Text.CharacterName.Shapes
import DiscoveryFiles.Text.CharacterName.Syllables

/-!
# Names of characters

A character is found by its name or by an alias.  Ideographs are named after their numbers and
Korean syllables after their letters; all other names stand in tables.  No sequence of characters
is found, even if it has a name.
-/

namespace DiscoveryFiles
namespace Text

/-- The names and aliases that follow each other. -/
def characterNames : List NameRow :=
  alphabetNames ++ asianNames ++ syllabicNames ++ furtherNames ++ formNames ++ punctuationNames ++
    shapeNames ++ historicNames ++ ancientNames ++ notationNames ++ pictureNames ++ selectorAliases

/-- The unified ideographs. -/
def ideographRanges : List (Nat × Nat) :=
  [
    (0x3400, 0x4DBF), (0x4E00, 0x9FFF), (0x20000, 0x2A6DF), (0x2A700, 0x2B738), (0x2B740, 0x2B81D),
    (0x2B820, 0x2CEA1), (0x2CEB0, 0x2EBE0), (0x30000, 0x3134A)]

/-- The value of a capital hexadecimal digit. -/
def capitalDigit? (c : Char) : Option Nat :=
  if '0' ≤ c && c ≤ '9' then some (c.toNat - '0'.toNat)
  else if 'A' ≤ c && c ≤ 'F' then some (c.toNat - 'A'.toNat + 10)
  else none

/-- The ideograph that four or five capital hexadecimal digits name. -/
def ideograph? (digits : Text) : Option Nat := do
  let values ← digits.mapM capitalDigit?
  let number := values.foldl (fun n value => n * 16 + value) 0
  if (values.length = 4 || values.length = 5) && inRanges ideographRanges number then some number
  else none

/-- The leading consonants of Korean syllables. -/
def leadingConsonants : List String :=
  [
    "G", "GG", "N", "D", "DD", "R", "M", "B", "BB", "S", "SS", "", "J", "JJ", "C", "K", "T", "P",
    "H"]

/-- The vowels of Korean syllables. -/
def syllableVowels : List String :=
  [
    "A", "AE", "YA", "YAE", "EO", "E", "YEO", "YE", "O", "WA", "WAE", "OE", "YO", "U", "WEO", "WE",
    "WI", "YU", "EU", "YI", "I"]

/-- The trailing consonants of Korean syllables. -/
def trailingConsonants : List String :=
  [
    "", "G", "GG", "GS", "N", "NJ", "NH", "D", "L", "LG", "LM", "LB", "LS", "LT", "LP", "LH", "M",
    "B", "BS", "S", "SS", "NG", "J", "C", "K", "T", "P", "H"]

/-- The syllable that is spelled by a leading consonant, a vowel and a trailing consonant.  The
syllables follow each other in the order of these three. -/
def syllable? (spelling : String) : Option Nat :=
  leadingConsonants.zipIdx.findSome? fun (leading, first) =>
    syllableVowels.zipIdx.findSome? fun (vowel, second) =>
      trailingConsonants.zipIdx.findSome? fun (trailing, third) =>
        if leading ++ vowel ++ trailing = spelling then
          some (0xAC00 + (first * 21 + second) * 28 + third)
        else none

/-- The first words of the names of unified ideographs. -/
def ideographWords : String := "CJK UNIFIED IDEOGRAPH-"

/-- The first words of the names of Korean syllables. -/
def syllableWords : String := "HANGUL SYLLABLE "

/-- The code point with a name that follows a rule.  Here case matters. -/
def numberOfRegularName? (name : Text) : Option Nat :=
  if name.begins ideographWords then ideograph? (name.drop ideographWords.length)
  else if name.begins syllableWords then
    syllable? (String.ofList (name.drop syllableWords.length))
  else none

/-- The code point with a name or alias.  The case of letters does not matter. -/
def numberOfName? (name : String) : Option Nat :=
  match numberOfRegularName? name.toList with
  | some number => some number
  | none =>
      let name := name.map Char.toUpper
      match characterAliases.lookup name with
      | some number => some number
      | none => characterNames.findSome? (·.number? name.toList)

end Text
end DiscoveryFiles
