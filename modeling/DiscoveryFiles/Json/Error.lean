import DiscoveryFiles.Text.Position

/-!
# Reading errors of JSON

A text is refused for a fault at a place, for nesting too deeply, or for an integer with too many
digits.
-/

namespace DiscoveryFiles
namespace Json

/-- What is wrong at a place of a text. -/
inductive Problem where
  /-- A value should start here. -/
  | value
  /-- The name of a member should start here. -/
  | memberName
  /-- A colon should follow the name of a member. -/
  | colon
  /-- A comma should follow. -/
  | comma
  /-- The string that starts here has no end. -/
  | openString
  /-- A control character stands inside a string. -/
  | controlCharacter
  /-- A backslash is followed by a character that no escape has. -/
  | escape
  /-- An escape by number lacks its four digits. -/
  | numericEscape
  /-- Something follows the value. -/
  | extraData
  /-- The text starts with a byte order mark. -/
  | byteOrderMark
  deriving DecidableEq, Repr

/-- The wording of a problem. -/
def Problem.message : Problem → String
  | value => "Expecting value"
  | memberName => "Expecting property name enclosed in double quotes"
  | colon => "Expecting ':' delimiter"
  | comma => "Expecting ',' delimiter"
  | openString => "Unterminated string starting at"
  | controlCharacter => "Invalid control character at"
  | escape => "Invalid \\escape"
  | numericEscape => "Invalid \\uXXXX escape"
  | extraData => "Extra data"
  | byteOrderMark => "Unexpected UTF-8 BOM (decode using utf-8-sig)"

/-- A value that holds others. -/
inductive Container where
  /-- An array. -/
  | array
  /-- An object. -/
  | object
  deriving DecidableEq, Repr

/-- The word for a container. -/
def Container.word : Container → String
  | array => "array"
  | object => "object"

/-- Why a text is not read as a JSON value. -/
inductive Error where
  /-- The text is not JSON. -/
  | malformed (problem : Problem) (place : Text.Position)
  /-- Arrays and objects nest too deeply; the container at the limit is named. -/
  | tooDeep (container : Container)
  /-- An integer has more digits than are allowed. -/
  | tooManyDigits (count : Nat)
  deriving DecidableEq, Repr

/-- The greatest number of digits of an integer. -/
def digitLimit : Nat := 4300

/-- The greatest number of containers around a value. -/
def depthLimit : Nat := 990

/-- The wording of a refusal for nesting too deeply. -/
def depthMessage : String := "maximum recursion depth exceeded"

/-- The wording of an error. -/
def Error.message : Error → String
  | malformed problem place =>
      problem.message ++ ": line " ++ toString place.line ++ " column " ++ toString place.column ++
        " (char " ++ toString place.index ++ ")"
  | tooDeep container =>
      depthMessage ++ " while decoding a JSON " ++ container.word ++ " from a unicode string"
  | tooManyDigits count =>
      "Exceeds the limit (" ++ toString digitLimit ++
        " digits) for integer string conversion: value has " ++ toString count ++
        " digits; use sys.set_int_max_str_digits() to increase the limit"

end Json
end DiscoveryFiles
