import DiscoveryFiles.Pattern.Basic
import DiscoveryFiles.Text.Position
import DiscoveryFiles.Text.Quoted

/-!
# Errors in patterns

An error names a place of the pattern by its index, and by its line and column as well if the
pattern has several lines.  What only comes to light in the finished pattern has no place.
-/

namespace DiscoveryFiles
namespace Pattern

/-- What is wrong with a pattern. -/
inductive Problem where
  /-- The pattern ends in a backslash. -/
  | finalBackslash
  /-- An escape has no meaning. -/
  | badEscape (escape : CodePoints)
  /-- An escape by number lacks digits. -/
  | shortEscape (escape : CodePoints)
  /-- An octal escape is above 255. -/
  | largeOctal (escape : CodePoints)
  /-- A group is not closed. -/
  | openGroup
  /-- A comment is not closed. -/
  | openComment
  /-- A parenthesis closes nothing. -/
  | strayParenthesis
  /-- A class is not closed. -/
  | openClass
  /-- The ends of a range are in the wrong order, or are not characters. -/
  | badRange (first last : CodePoints)
  /-- A quantifier has nothing before it. -/
  | nothingToRepeat
  /-- A quantifier follows a quantifier. -/
  | multipleRepeat
  /-- The least count is above the greatest. -/
  | crossedCounts
  /-- A count is beyond all limits. -/
  | largeCount
  /-- A count has too many digits. -/
  | longCount (digits : Nat)
  /-- The pattern ends too early. -/
  | unexpectedEnd
  /-- A group starts with an unknown mark. -/
  | unknownExtension (mark : CodePoints)
  /-- The name of a group is missing. -/
  | unnamedGroup
  /-- The name of a character is missing. -/
  | unnamedCharacter
  /-- A character is to be named, and no brace opens. -/
  | noNameOpened
  /-- A name is not closed. -/
  | openName (closing : Char)
  /-- There is no character of this name. -/
  | unknownCharacter (name : CodePoints)
  /-- The name of a group is no identifier. -/
  | badGroupName (name : CodePoints)
  /-- Two groups have one name. -/
  | takenGroupName (name : CodePoints) (number earlier : Nat)
  /-- There is no group of this name. -/
  | unknownGroupName (name : CodePoints)
  /-- There is no group of this number. -/
  | unknownGroup (number : Nat)
  /-- Groups are counted from one. -/
  | groupZero
  /-- A reference stands inside of the group that it names. -/
  | openReference
  /-- A reference to a group stands in the same pattern that looks behind. -/
  | referenceBehind
  /-- A choice has more than two branches. -/
  | manyBranches
  /-- A letter is no flag. -/
  | unknownFlag
  /-- Flags are not closed. -/
  | openFlags
  /-- No flag follows where flags are turned off. -/
  | missingFlag
  /-- Flags that are turned off are not closed. -/
  | openRemoval
  /-- Characters of a text cannot be classed after a locale. -/
  | localeFlag
  /-- Flags class characters in two ways. -/
  | opposedFlags
  /-- A flag that classes characters is turned off. -/
  | requiredFlag
  /-- A flag for the whole pattern is turned on for a group. -/
  | globalFlagOn
  /-- A flag for the whole pattern is turned off for a group. -/
  | globalFlagOff
  /-- A flag is turned on and off at once. -/
  | contraryFlags
  /-- Flags for the whole pattern come after its start. -/
  | lateFlags
  /-- Flags for the whole pattern class characters in two ways. -/
  | opposedAlphabets
  /-- A pattern looks too far behind. -/
  | farBehind
  /-- A pattern looks behind over stretches of several widths. -/
  | unevenBehind
  /-- A pattern repeats something against its flags. -/
  | forbiddenRepeat (manner : Manner)

/-- The word for a repetition that flags forbid. -/
def Manner.word : Manner → String
  | greedy => "MAX_REPEAT"
  | lazy => "MIN_REPEAT"
  | possessive => "POSSESSIVE_REPEAT"

/-- The wording of a problem. -/
def Problem.message : Problem → String
  | finalBackslash => "bad escape (end of pattern)"
  | badEscape escape => "bad escape " ++ escape.words
  | shortEscape escape => "incomplete escape " ++ escape.words
  | largeOctal escape => "octal escape value " ++ escape.words ++ " outside of range 0-0o377"
  | openGroup => "missing ), unterminated subpattern"
  | openComment => "missing ), unterminated comment"
  | strayParenthesis => "unbalanced parenthesis"
  | openClass => "unterminated character set"
  | badRange first last => "bad character range " ++ first.words ++ "-" ++ last.words
  | nothingToRepeat => "nothing to repeat"
  | multipleRepeat => "multiple repeat"
  | crossedCounts => "min repeat greater than max repeat"
  | largeCount => "the repetition number is too large"
  | longCount digits =>
      "Exceeds the limit (4300 digits) for integer string conversion: value has " ++
        toString digits ++ " digits; use sys.set_int_max_str_digits() to increase the limit"
  | unexpectedEnd => "unexpected end of pattern"
  | unknownExtension mark => "unknown extension " ++ mark.words
  | unnamedGroup => "missing group name"
  | unnamedCharacter => "missing character name"
  | noNameOpened => "missing \x7b"
  | openName closing => "missing " ++ String.singleton closing ++ ", unterminated name"
  | unknownCharacter name => "undefined character name " ++ String.ofList name.quoted
  | badGroupName name => "bad character in group name " ++ String.ofList name.quoted
  | takenGroupName name number earlier =>
      "redefinition of group name " ++ String.ofList name.quoted ++ " as group " ++
        toString number ++ "; was group " ++ toString earlier
  | unknownGroupName name => "unknown group name " ++ String.ofList name.quoted
  | unknownGroup number => "invalid group reference " ++ toString number
  | groupZero => "bad group number"
  | openReference => "cannot refer to an open group"
  | referenceBehind => "cannot refer to group defined in the same lookbehind subpattern"
  | manyBranches => "conditional backref with more than two branches"
  | unknownFlag => "unknown flag"
  | openFlags => "missing -, : or )"
  | missingFlag => "missing flag"
  | openRemoval => "missing :"
  | localeFlag => "bad inline flags: cannot use 'L' flag with a str pattern"
  | opposedFlags => "bad inline flags: flags 'a', 'u' and 'L' are incompatible"
  | requiredFlag => "bad inline flags: cannot turn off flags 'a', 'u' and 'L'"
  | globalFlagOn => "bad inline flags: cannot turn on global flag"
  | globalFlagOff => "bad inline flags: cannot turn off global flag"
  | contraryFlags => "bad inline flags: flag turned on and off"
  | lateFlags => "global flags not at the start of the expression"
  | opposedAlphabets => "ASCII and UNICODE flags are incompatible"
  | farBehind => "looks too much behind"
  | unevenBehind => "look-behind requires fixed-width pattern"
  | forbiddenRepeat manner => "internal: unsupported template operator " ++ manner.word

/-- A problem and its place in a pattern. -/
structure Error where
  /-- What is wrong. -/
  problem : Problem
  /-- The number of code points before the place, if the problem has a place. -/
  index : Option Nat

/-- The wording of a place in a pattern. -/
def placeWords (pattern : CodePoints) (index : Nat) : String :=
  let place := Text.positionAt (.scalar '\n') pattern index
  let lines :=
    if pattern.contains (.scalar '\n') then
      " (line " ++ toString place.line ++ ", column " ++ toString place.column ++ ")"
    else ""
  " at position " ++ toString index ++ lines

/-- The wording of an error in a pattern. -/
def Error.message (pattern : CodePoints) (error : Error) : String :=
  match error.index with
  | some index => error.problem.message ++ placeWords pattern index
  | none => error.problem.message

end Pattern
end DiscoveryFiles
