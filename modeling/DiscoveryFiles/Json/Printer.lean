import DiscoveryFiles.Json.Basic
import DiscoveryFiles.Number.Shortest
import DiscoveryFiles.Text.Quoted

/-!
# Writing JSON

A value is written on one line, or with one item to a line.  Only quotes, backslashes and control
characters are escaped.
-/

namespace DiscoveryFiles
namespace Json

/-- How a code point is written in a string. -/
def writePoint : CodePoint → Text
  | .scalar '"' => ['\\', '"']
  | .scalar '\\' => ['\\', '\\']
  | .scalar '\n' => ['\\', 'n']
  | .scalar '\r' => ['\\', 'r']
  | .scalar '\t' => ['\\', 't']
  | .scalar '\x0c' => ['\\', 'f']
  | .scalar '\x08' => ['\\', 'b']
  | point =>
      if point.number < 0x20 then '\\' :: 'u' :: CodePoints.hexDigits 4 point.number
      else [point.shown]

/-- A string between double quotes. -/
def writeString (s : CodePoints) : Text :=
  '"' :: s.flatMap writePoint ++ ['"']

/-- An integer. -/
def writeInteger : Int → Text
  | .ofNat n => Nat.toDigits 10 n
  | .negSucc n => '-' :: Nat.toDigits 10 (n + 1)

/-- A floating-point number. -/
def writeDouble : Binary64 → Text
  | .nan => "NaN".toList
  | .infinite false => "Infinity".toList
  | .infinite true => "-Infinity".toList
  | .finite negative significand exponent =>
      Binary64.writeFinite Binary64.numberLayout negative significand exponent

/-- Whether the items of a container stand on lines of their own. -/
inductive Spread where
  /-- All on one line. -/
  | line
  /-- One item to a line, indented by two spaces for each container around it. -/
  | indented
  deriving DecidableEq, Repr

/-- The break before an item or a closing bracket at a depth. -/
def Spread.gap : Spread → Nat → Text
  | line, _ => []
  | indented, depth => '\n' :: List.replicate (2 * depth) ' '

/-- What stands between two items at a depth. -/
def Spread.separator : Spread → Nat → Text
  | line, _ => [',', ' ']
  | indented, depth => ',' :: Spread.indented.gap depth

mutual

/-- Write a value that stands at a depth. -/
def write (spread : Spread) (depth : Nat) : Json → Text
  | null => "null".toList
  | boolean true => "true".toList
  | boolean false => "false".toList
  | integer n => writeInteger n
  | double x => writeDouble x
  | string s => writeString s
  | array [] => ['[', ']']
  | array (item :: items) =>
      '[' :: spread.gap (depth + 1) ++ write spread (depth + 1) item ++
        writeItems spread (depth + 1) items ++ spread.gap depth ++ [']']
  | object [] => ['{', '}']
  | object ((name, value) :: members) =>
      '{' :: spread.gap (depth + 1) ++ writeString name ++ ':' :: ' ' ::
        write spread (depth + 1) value ++ writeMembers spread (depth + 1) members ++
        spread.gap depth ++ ['}']

/-- Write the items after the first, each behind a separator. -/
def writeItems (spread : Spread) (depth : Nat) : List Json → Text
  | [] => []
  | item :: items =>
      spread.separator depth ++ write spread depth item ++ writeItems spread depth items

/-- Write the members after the first, each behind a separator. -/
def writeMembers (spread : Spread) (depth : Nat) : List (CodePoints × Json) → Text
  | [] => []
  | (name, value) :: members =>
      spread.separator depth ++ writeString name ++ ':' :: ' ' :: write spread depth value ++
        writeMembers spread depth members

end

/-- A value on one line. -/
def compact (value : Json) : Text :=
  value.write .line 0

/-- A value with one item to a line. -/
def pretty (value : Json) : Text :=
  value.write .indented 0

/-- A value as a message about data shows it: a string bare, anything else as JSON. -/
def display : Json → Text
  | string s => s.shown
  | value => value.compact

end Json
end DiscoveryFiles
