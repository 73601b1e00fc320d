import DiscoveryFiles.Json.Basic
import DiscoveryFiles.Json.Error

/-!
# Reading JSON

A reader takes a text and gives back what it read and the rest of the text.  A failure carries the
rest of the text at which it arose, which gives its place.
-/

namespace DiscoveryFiles
namespace Json
namespace Parser

/-- A failure and the rest of the text where it arose. -/
inductive Failure where
  /-- The text is not JSON. -/
  | malformed (problem : Problem) (rest : Text)
  /-- Containers nest too deeply. -/
  | tooDeep (container : Container)
  /-- An integer has too many digits. -/
  | tooManyDigits (count : Nat)

/-- What was read, and the rest of the text. -/
abbrev Outcome (α : Type) := Except Failure (α × Text)

/-- The white space between the parts of a JSON text. -/
def isBlank (c : Char) : Bool :=
  c = ' ' || c = '\t' || c = '\n' || c = '\r'

/-- Drop the white space at the start. -/
def skipBlank (text : Text) : Text :=
  text.dropWhile isBlank

/-- The decimal digits. -/
def isDigit (c : Char) : Bool :=
  '0' ≤ c && c ≤ '9'

/-- The value of a hexadecimal digit. -/
def hexValue? (c : Char) : Option Nat :=
  if '0' ≤ c ∧ c ≤ '9' then some (c.toNat - '0'.toNat)
  else if 'a' ≤ c ∧ c ≤ 'f' then some (c.toNat - 'a'.toNat + 10)
  else if 'A' ≤ c ∧ c ≤ 'F' then some (c.toNat - 'A'.toNat + 10)
  else none

/-- The number that four hexadecimal digits write. -/
def hexNumber? (a b c d : Char) : Option Nat :=
  match hexValue? a, hexValue? b, hexValue? c, hexValue? d with
  | some w, some x, some y, some z => some (((w * 16 + x) * 16 + y) * 16 + z)
  | _, _, _, _ => none

/-- The character of an escape of one letter. -/
def escaped? : Char → Option Char
  | '"' => some '"'
  | '\\' => some '\\'
  | '/' => some '/'
  | 'b' => some '\x08'
  | 'f' => some '\x0c'
  | 'n' => some '\n'
  | 'r' => some '\r'
  | 't' => some '\t'
  | _ => none

/-- Put a code point before the string that was read after it. -/
def before (point : CodePoint) : Outcome CodePoints → Outcome CodePoints
  | .ok (points, rest) => .ok (point :: points, rest)
  | .error failure => .error failure

/-- Read a string up to its closing quote, given the text from its opening quote on.  An escape by
number needs a character after its digits. -/
def stringBody (opening : Text) : Text → Outcome CodePoints
  | [] => .error (.malformed .openString opening)
  | '"' :: rest => .ok ([], rest)
  | ['\\'] => .error (.malformed .openString opening)
  | '\\' :: 'u' :: a :: b :: c :: d :: next :: rest =>
      match hexNumber? a b c d with
      | some n => before (CodePoint.ofNumber n) (stringBody opening (next :: rest))
      | none =>
          .error (.malformed .numericEscape ('u' :: a :: b :: c :: d :: next :: rest))
  | '\\' :: 'u' :: rest => .error (.malformed .numericEscape ('u' :: rest))
  | '\\' :: c :: rest =>
      match escaped? c with
      | some c => before (.scalar c) (stringBody opening rest)
      | none => .error (.malformed .escape ('\\' :: c :: rest))
  | c :: rest =>
      if c.toNat < 0x20 then .error (.malformed .controlCharacter (c :: rest))
      else before (.scalar c) (stringBody opening rest)

/-- Read a string, given the text behind its opening quote.  Two escaped halves of a surrogate pair
are one character. -/
def string (rest : Text) : Outcome CodePoints :=
  match stringBody ('"' :: rest) rest with
  | .ok (points, rest) => .ok (points.joinPairs, rest)
  | .error failure => .error failure

/-- The number that decimal digits write. -/
def decimalNumber (digits : Text) : Nat :=
  digits.foldl (fun n c => n * 10 + (c.toNat - '0'.toNat)) 0

/-- The parts of a numeral. -/
structure Numeral where
  /-- Whether a minus sign comes first. -/
  negative : Bool
  /-- The digits before the point. -/
  whole : Text
  /-- The digits behind the point, if there is one. -/
  fraction : Option Text
  /-- The sign and the digits of the exponent, if there is one. -/
  exponent : Option (Bool × Text)

/-- Read the digits before the point: a zero alone, or digits that do not start with one. -/
def wholePart? : Text → Option (Text × Text)
  | [] => none
  | c :: rest =>
      if c = '0' then some (['0'], rest)
      else if isDigit c then some (c :: rest.takeWhile isDigit, rest.dropWhile isDigit)
      else none

/-- Read a point and the digits behind it.  A point without digits does not belong to the
numeral. -/
def fractionPart : Text → Option Text × Text
  | '.' :: rest =>
      if (rest.takeWhile isDigit).isEmpty then (none, '.' :: rest)
      else (some (rest.takeWhile isDigit), rest.dropWhile isDigit)
  | text => (none, text)

/-- Read the sign of an exponent. -/
def exponentSign : Text → Bool × Text
  | '-' :: rest => (true, rest)
  | '+' :: rest => (false, rest)
  | text => (false, text)

/-- Read an exponent.  Its letter without digits does not belong to the numeral. -/
def exponentPart : Text → Option (Bool × Text) × Text
  | [] => (none, [])
  | c :: rest =>
      let (negative, digits) := exponentSign rest
      if (c = 'e' || c = 'E') && !(digits.takeWhile isDigit).isEmpty then
        (some (negative, digits.takeWhile isDigit), digits.dropWhile isDigit)
      else (none, c :: rest)

/-- Read a minus sign. -/
def minusSign : Text → Bool × Text
  | '-' :: rest => (true, rest)
  | text => (false, text)

/-- Read a numeral. -/
def numeral? (text : Text) : Option (Numeral × Text) :=
  let (negative, text) := minusSign text
  match wholePart? text with
  | none => none
  | some (whole, text) =>
      let (fraction, text) := fractionPart text
      let (exponent, text) := exponentPart text
      some (⟨negative, whole, fraction, exponent⟩, text)

/-- The value of a numeral: an integer, or a floating-point number if it has a fraction or an
exponent. -/
def Numeral.value (numeral : Numeral) : Except Failure Json :=
  match numeral.fraction, numeral.exponent with
  | none, none =>
      if digitLimit < numeral.whole.length then .error (.tooManyDigits numeral.whole.length)
      else
        let n : Int := decimalNumber numeral.whole
        .ok (.integer (if numeral.negative then -n else n))
  | fraction, exponent =>
      let digits := numeral.whole ++ fraction.getD []
      let power : Int :=
        match exponent with
        | none => 0
        | some (negative, digits) =>
            let n : Int := decimalNumber digits
            if negative then -n else n
      .ok (.double (Binary64.ofDecimal numeral.negative (decimalNumber digits)
        (power - (fraction.getD []).length)))

/-- The words that are values, each with its value. -/
def constants : List (String × Json) :=
  [("null", .null), ("true", .boolean true), ("false", .boolean false), ("NaN", .double .nan),
    ("Infinity", .double (.infinite false)), ("-Infinity", .double (.infinite true))]

/-- Read a word that is a value. -/
def constant? (text : Text) : Option (Json × Text) :=
  (constants.find? fun entry => text.begins entry.1).map fun entry =>
    (entry.2, text.drop entry.1.length)

/-- Read a value that is neither a string nor a container. -/
def atom (text : Text) : Outcome Json :=
  match constant? text with
  | some result => .ok result
  | none =>
      match numeral? text with
      | none => .error (.malformed .value text)
      | some (numeral, rest) =>
          match numeral.value with
          | .ok value => .ok (value, rest)
          | .error failure => .error failure

/-- Read the name of a member and the colon behind it. -/
def memberName (text : Text) : Outcome CodePoints :=
  match text with
  | '"' :: rest =>
      match string rest with
      | .error failure => .error failure
      | .ok (name, rest) =>
          match skipBlank rest with
          | ':' :: rest => .ok (name, skipBlank rest)
          | rest => .error (.malformed .colon rest)
  | text => .error (.malformed .memberName text)

mutual

/-- Read a value that starts at once, within `depth` further containers.  The fuel bounds the
number of steps; twice the length of the text suffices. -/
def value : Nat → Nat → Text → Outcome Json
  | 0, _, text => .error (.malformed .value text)
  | fuel + 1, depth, text =>
      match text with
      | '"' :: rest =>
          match string rest with
          | .ok (points, rest) => .ok (.string points, rest)
          | .error failure => .error failure
      | '[' :: rest =>
          match depth with
          | 0 => .error (.tooDeep .array)
          | depth + 1 =>
              match skipBlank rest with
              | ']' :: rest => .ok (.array [], rest)
              | rest =>
                  match items fuel depth rest with
                  | .ok (items, rest) => .ok (.array items, rest)
                  | .error failure => .error failure
      | '{' :: rest =>
          match depth with
          | 0 => .error (.tooDeep .object)
          | depth + 1 =>
              match skipBlank rest with
              | '}' :: rest => .ok (.object [], rest)
              | rest =>
                  match members fuel depth rest with
                  | .ok (entries, rest) => .ok (.object (collect entries), rest)
                  | .error failure => .error failure
      | text => atom text

/-- Read the items of an array up to its closing bracket. -/
def items : Nat → Nat → Text → Outcome (List Json)
  | 0, _, text => .error (.malformed .value text)
  | fuel + 1, depth, text =>
      match value fuel depth text with
      | .error failure => .error failure
      | .ok (item, rest) =>
          match skipBlank rest with
          | ']' :: rest => .ok ([item], rest)
          | ',' :: rest =>
              match items fuel depth (skipBlank rest) with
              | .ok (others, rest) => .ok (item :: others, rest)
              | .error failure => .error failure
          | rest => .error (.malformed .comma rest)

/-- Read the members of an object up to its closing brace, repeated names included. -/
def members : Nat → Nat → Text → Outcome (List (CodePoints × Json))
  | 0, _, text => .error (.malformed .value text)
  | fuel + 1, depth, text =>
      match memberName text with
      | .error failure => .error failure
      | .ok (name, rest) =>
          match value fuel depth rest with
          | .error failure => .error failure
          | .ok (member, rest) =>
              match skipBlank rest with
              | '}' :: rest => .ok ([(name, member)], rest)
              | ',' :: rest =>
                  match members fuel depth (skipBlank rest) with
                  | .ok (others, rest) => .ok ((name, member) :: others, rest)
                  | .error failure => .error failure
              | rest => .error (.malformed .comma rest)

end

/-- Read a text that holds one value and nothing else but white space. -/
def document (text : Text) : Except Failure Json :=
  if text.begins "\uFEFF" then .error (.malformed .byteOrderMark text)
  else
    match value (2 * text.length + 2) depthLimit (skipBlank text) with
    | .error failure => .error failure
    | .ok (value, rest) =>
        match skipBlank rest with
        | [] => .ok value
        | rest => .error (.malformed .extraData rest)

/-- The error that a failure is reported as. -/
def Failure.report (text : Text) : Failure → Error
  | malformed problem rest =>
      .malformed problem (Text.positionAt '\n' text (text.length - rest.length))
  | tooDeep container => .tooDeep container
  | tooManyDigits count => .tooManyDigits count

end Parser

/-- Read a JSON text. -/
def parse (text : Text) : Except Error Json :=
  (Parser.document text).mapError (Parser.Failure.report text)

end Json
end DiscoveryFiles
