import DiscoveryFiles.Pattern.Parser.Cursor
import DiscoveryFiles.Text.CharacterName

/-!
# Escapes in patterns

A backslash and what follows it stand for a character, for the characters with a property, for a
condition on a place, or for what a group held.  Inside of classes only the first two occur.
-/

namespace DiscoveryFiles
namespace Pattern
namespace Parser

/-- The decimal digits. -/
def isDigit (c : Char) : Bool :=
  '0' ≤ c && c ≤ '9'

/-- The octal digits. -/
def isOctal (c : Char) : Bool :=
  '0' ≤ c && c ≤ '7'

/-- The hexadecimal digits. -/
def isHex (c : Char) : Bool :=
  isDigit c || 'a' ≤ c && c ≤ 'f' || 'A' ≤ c && c ≤ 'F'

/-- The letters of the alphabet. -/
def isLetter (c : Char) : Bool :=
  'a' ≤ c && c ≤ 'z' || 'A' ≤ c && c ≤ 'Z'

/-- The value of a digit in any base up to sixteen. -/
def digitValue (point : CodePoint) : Nat :=
  let n := point.number
  if n ≤ '9'.toNat then n - '0'.toNat
  else if n ≤ 'F'.toNat then n - 'A'.toNat + 10
  else n - 'a'.toNat + 10

/-- The number that digits write in a base. -/
def numberIn (base : Nat) (digits : CodePoints) : Nat :=
  digits.foldl (fun n point => n * base + digitValue point) 0

/-- The character of an escape that stands for a control character or the backslash. -/
def controlEscape? : Char → Option Nat
  | 'a' => some 0x7
  | 'b' => some 0x8
  | 'f' => some 0xC
  | 'n' => some 0xA
  | 'r' => some 0xD
  | 't' => some 0x9
  | 'v' => some 0xB
  | '\\' => some 0x5C
  | _ => none

/-- A property as flags have it. -/
def propertyUnder (flags : List Flag) (property : Property) : Property :=
  if flags.contains .ascii then property.withinAscii else property

/-- The part of a class that an escape stands for under flags. -/
def propertyEscape? (flags : List Flag) : Char → Option ClassPart
  | 'd' => some (.having (propertyUnder flags .digit))
  | 'D' => some (.lacking (propertyUnder flags .digit))
  | 's' => some (.having (propertyUnder flags .blank))
  | 'S' => some (.lacking (propertyUnder flags .blank))
  | 'w' => some (.having (propertyUnder flags .word))
  | 'W' => some (.lacking (propertyUnder flags .word))
  | _ => none

/-- The condition that an escape stands for under flags. -/
def anchorEscape? (flags : List Flag) : Char → Option Anchor
  | 'A' => some .start
  | 'Z' => some .finish
  | 'b' => some (.edge (propertyUnder flags .word))
  | 'B' => some (.noEdge (propertyUnder flags .word))
  | _ => none

/-- Read the digits of an escape by number, given its letter. -/
def hexEscape (letter : Char) (width : Nat) : Step Nat := do
  let start := (← here) - 2
  let digits ← takeUpTo isHex width
  let escape := .scalar '\\' :: .scalar letter :: digits
  let number := numberIn 16 digits
  if digits.length ≠ width then fail (.shortEscape escape) start
  else if 0x10FFFF < number then fail (.badEscape escape) start
  else return number

/-- Read an octal escape, given its first digit. -/
def octalEscape (first : Char) : Step Nat := do
  let start := (← here) - 2
  let digits := .scalar first :: (← takeUpTo isOctal 2)
  let number := numberIn 8 digits
  if 0o377 < number then fail (.largeOctal (.scalar '\\' :: digits)) start
  else return number

/-- Read the name of a character between braces. -/
def nameEscape : Step Nat := do
  if ← accept '{' then
    let name ← nameUpTo '}' .unnamedCharacter
    match Text.numberOfName? name.words with
    | some number => return number
    | none => fail (.unknownCharacter name) ((← here) - (name.length + 4))
  else fail .noNameOpened (← here)

/-- Read the escapes that stand for one character both inside and outside of classes. -/
def characterEscape (c : Char) : Step Nat := do
  match c with
  | 'x' => hexEscape 'x' 2
  | 'u' => hexEscape 'u' 4
  | 'U' => hexEscape 'U' 8
  | 'N' => nameEscape
  | _ =>
      if isLetter c || isDigit c then
        fail (.badEscape [.scalar '\\', .scalar c]) ((← here) - 2)
      else return c.toNat

/-- The part of a class that holds one code point. -/
def singlePart (number : Nat) : ClassPart :=
  .range number number

/-- Read an escape inside a class, given the character behind its backslash. -/
def classEscape (flags : List Flag) : CodePoint → Step ClassPart
  | .surrogate offset => return singlePart (CodePoint.surrogate offset).number
  | .scalar c =>
      match controlEscape? c, propertyEscape? flags c with
      | some number, _ => return singlePart number
      | none, some part => return part
      | none, none =>
          if isOctal c then return singlePart (← octalEscape c)
          else return singlePart (← characterEscape c)

/-- The pattern of one given code point under flags. -/
def literal (flags : List Flag) (number : Nat) : Pattern :=
  .one (.single (.ofFlags flags) number)

/-- Whether a group is closed. -/
def isClosed (number : Nat) : Step Bool :=
  return ((← get).widths.lookup number).isSome

/-- Refuse a reference from inside of a pattern that looks behind, unless the group was closed
before that pattern. -/
def checkBehind (number : Nat) : Step Unit := do
  match (← get).behind with
  | none => return
  | some groups =>
      if !(← isClosed number) then fail .openReference (← here)
      else if groups < number then fail .referenceBehind (← here)

/-- The pattern of what a group held.  An open group is refused at an index. -/
def reference (flags : List Flag) (number index : Nat) : Step Pattern := do
  if !(← isClosed number) then fail .openReference index
  checkBehind number
  return .same number (.ofFlags flags)

/-- Read an escape that starts with a digit other than zero: three octal digits, or a reference
to a group. -/
def referenceEscape (flags : List Flag) (first : Char) : Step Pattern := do
  let start := (← here) - 2
  let second ← takeUpTo isDigit 1
  let octal := isOctal first && second.any fun point => digitValue point < 8
  let third ← if octal then takeUpTo isOctal 1 else pure []
  let digits := .scalar first :: (second ++ third)
  let number := numberIn 8 digits
  let group := numberIn 10 digits
  if third.isEmpty then
    if (← get).groups < group then fail (.unknownGroup group) (start + 1)
    else reference flags group start
  else if 0o377 < number then fail (.largeOctal (.scalar '\\' :: digits)) start
  else return literal flags number

/-- Read an escape outside of classes, given the character behind its backslash. -/
def escape (flags : List Flag) : CodePoint → Step Pattern
  | .surrogate offset => return literal flags (CodePoint.surrogate offset).number
  | .scalar c =>
      match propertyEscape? flags c, anchorEscape? flags c, controlEscape? c with
      | some part, _, _ => return .one ⟨false, .ofFlags flags, [part]⟩
      | none, some condition, _ => return .anchor condition
      | none, none, some number => return literal flags number
      | none, none, none =>
          if c = '0' then return literal flags (← octalEscape c)
          else if isDigit c then referenceEscape flags c
          else return literal flags (← characterEscape c)

end Parser
end Pattern
end DiscoveryFiles
