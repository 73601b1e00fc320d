import DiscoveryFiles.Json.Basic

/-!
# The grammar of JSON

The texts that are JSON, each with the value that it denotes, by the productions of RFC 8259.  Three
words for numbers are added to the constants: `NaN`, `Infinity` and `-Infinity`.

The grammar says nothing of how a text is read.  It sets no bound to the digits of a number and to
the depth of arrays and objects.
-/

namespace DiscoveryFiles
namespace Json

/-! ## White space and numbers -/

/-- White space, which may be empty. -/
def Blanks (text : Text) : Prop :=
  ∀ c ∈ text, c = ' ' ∨ c = '\t' ∨ c = '\n' ∨ c = '\r'

/-- Decimal digits, of which there is at least one. -/
def Digits (text : Text) : Prop :=
  text ≠ [] ∧ ∀ c ∈ text, c.isDigit = true

/-- The number that decimal digits write. -/
def numberOf (digits : Text) : Nat :=
  Nat.ofDigitChars 10 digits 0

/-- The sign of a number, with whether the number is negative. -/
inductive SignText : Text → Bool → Prop where
  /-- No sign. -/
  | absent : SignText [] false
  /-- A minus sign. -/
  | minus : SignText ['-'] true

/-- The digits of a number before the point: a zero alone, or digits that do not start with one. -/
inductive WholeText : Text → Prop where
  /-- A zero. -/
  | zero : WholeText ['0']
  /-- Digits without a zero in front. -/
  | positive {digits : Text} (plain : Digits digits) (leading : digits.head? ≠ some '0') :
      WholeText digits

/-- The fraction of a number, with the digits behind the point. -/
inductive FractionText : Text → Text → Prop where
  /-- No fraction. -/
  | absent : FractionText [] []
  /-- A point and digits. -/
  | present {digits : Text} (plain : Digits digits) : FractionText ('.' :: digits) digits

/-- The exponent of a number, with the power of ten that it stands for. -/
inductive ExponentText : Text → Int → Prop where
  /-- No exponent. -/
  | absent : ExponentText [] 0
  /-- An exponent without a sign. -/
  | unsigned {mark : Char} {digits : Text} (marks : mark = 'e' ∨ mark = 'E')
      (plain : Digits digits) : ExponentText (mark :: digits) (numberOf digits)
  /-- An exponent with a plus sign. -/
  | positive {mark : Char} {digits : Text} (marks : mark = 'e' ∨ mark = 'E')
      (plain : Digits digits) : ExponentText (mark :: '+' :: digits) (numberOf digits)
  /-- An exponent with a minus sign. -/
  | negative {mark : Char} {digits : Text} (marks : mark = 'e' ∨ mark = 'E')
      (plain : Digits digits) : ExponentText (mark :: '-' :: digits) (-numberOf digits)

/-- A number.  Without fraction and exponent it denotes an integer, otherwise the floating-point
number nearest to it. -/
inductive NumberText : Text → Json → Prop where
  /-- A number without fraction and exponent. -/
  | integer {sign whole : Text} {negative : Bool} (signed : SignText sign negative)
      (digits : WholeText whole) :
      NumberText (sign ++ whole) (.integer (Binary64.signed negative (numberOf whole)))
  /-- A number with a fraction, an exponent or both. -/
  | double {sign whole fraction exponent places : Text} {negative : Bool} {power : Int}
      (signed : SignText sign negative) (digits : WholeText whole)
      (fractional : FractionText fraction places) (exponential : ExponentText exponent power)
      (further : fraction ++ exponent ≠ []) :
      NumberText (sign ++ (whole ++ (fraction ++ exponent)))
        (.double (Binary64.ofDecimal negative (numberOf (whole ++ places))
          (power - places.length)))

/-! ## Strings -/

/-- The letters that stand for one character behind a backslash, with these characters. -/
def shortEscapes : List (Char × Char) :=
  [('"', '"'), ('\\', '\\'), ('/', '/'), ('b', '\x08'), ('f', '\x0c'), ('n', '\n'), ('r', '\r'),
    ('t', '\t')]

/-- Whether a character is the hexadecimal digit of a number, in either letter case. -/
def IsHexDigit (c : Char) (n : Nat) : Prop :=
  n < 16 ∧ (c = n.digitChar ∨ c = n.digitChar.toUpper)

/-- A character of a string or an escape, with the code point that it stands for. -/
inductive UnitText : Text → CodePoint → Prop where
  /-- A character that stands for itself. -/
  | plain {c : Char} (shown : 0x20 ≤ c.toNat) (unmarked : c ≠ '"' ∧ c ≠ '\\') :
      UnitText [c] (.scalar c)
  /-- An escape of one letter. -/
  | short {letter c : Char} (listed : (letter, c) ∈ shortEscapes) :
      UnitText ['\\', letter] (.scalar c)
  /-- An escape by number. -/
  | numbered {a b c d : Char} {w x y z : Nat} (first : IsHexDigit a w) (second : IsHexDigit b x)
      (third : IsHexDigit c y) (fourth : IsHexDigit d z) :
      UnitText ['\\', 'u', a, b, c, d] (.ofNumber (((w * 16 + x) * 16 + y) * 16 + z))

/-- What stands between the quotes of a string, with the code points one by one. -/
inductive UnitsText : Text → CodePoints → Prop where
  /-- Nothing. -/
  | nil : UnitsText [] []
  /-- A first unit and what follows it. -/
  | cons {text others : Text} {unit : CodePoint} {units : CodePoints} (first : UnitText text unit)
      (rest : UnitsText others units) : UnitsText (text ++ others) (unit :: units)

/-- Whether a code point is the first half of a surrogate pair. -/
def IsLeading (point : CodePoint) : Prop :=
  0xD800 ≤ point.number ∧ point.number < 0xDC00

/-- Whether a code point is the second half of a surrogate pair. -/
def IsTrailing (point : CodePoint) : Prop :=
  0xDC00 ≤ point.number ∧ point.number < 0xE000

/-- How the halves of surrogate pairs combine, from the first code point on. -/
inductive Joined : CodePoints → CodePoints → Prop where
  /-- Nothing is left. -/
  | nil : Joined [] []
  /-- Two halves are the character that they name together. -/
  | pair {first second : CodePoint} {units points : CodePoints} (leading : IsLeading first)
      (trailing : IsTrailing second) (rest : Joined units points) :
      Joined (first :: second :: units)
        (.scalar (Char.ofNat
          (0x10000 + (first.number - 0xD800) * 0x400 + (second.number - 0xDC00))) :: points)
  /-- Any other code point stays. -/
  | single {first : CodePoint} {units points : CodePoints}
      (unpaired : ∀ second ∈ units.head?, ¬(IsLeading first ∧ IsTrailing second))
      (rest : Joined units points) : Joined (first :: units) (first :: points)

/-- A string, with its code points. -/
inductive StringText : Text → CodePoints → Prop where
  /-- Units between quotes. -/
  | quoted {body : Text} {units points : CodePoints} (inside : UnitsText body units)
      (joined : Joined units points) : StringText ('"' :: (body ++ ['"'])) points

/-! ## Values -/

/-- A constant, with its value. -/
inductive ConstantText : Text → Json → Prop where
  /-- The value `null`. -/
  | null : ConstantText ['n', 'u', 'l', 'l'] .null
  /-- The truth value of what holds. -/
  | true : ConstantText ['t', 'r', 'u', 'e'] (.boolean true)
  /-- The truth value of what does not hold. -/
  | false : ConstantText ['f', 'a', 'l', 's', 'e'] (.boolean false)
  /-- Not a number. -/
  | nan : ConstantText ['N', 'a', 'N'] (.double .nan)
  /-- The number beyond all others. -/
  | infinity : ConstantText ['I', 'n', 'f', 'i', 'n', 'i', 't', 'y'] (.double (.infinite false))
  /-- The number below all others. -/
  | negativeInfinity :
      ConstantText ['-', 'I', 'n', 'f', 'i', 'n', 'i', 't', 'y'] (.double (.infinite true))

/-- Which members a sequence of named values makes: every name stands in the place where it came
first, with the value that it was given last. -/
structure Gathers (entries members : List (CodePoints × Json)) : Prop where
  /-- The names are those of the sequence, each once, in the order of their first occurrences. -/
  names : members.map Prod.fst = (entries.map Prod.fst).eraseDups
  /-- A name has the value of its last occurrence. -/
  values : ∀ name, member? name members = member? name entries.reverse

mutual

/-- A value. -/
inductive ValueText : Text → Json → Prop where
  /-- A constant. -/
  | constant {text : Text} {value : Json} (word : ConstantText text value) : ValueText text value
  /-- A number. -/
  | number {text : Text} {value : Json} (numeral : NumberText text value) : ValueText text value
  /-- A string. -/
  | string {text : Text} {points : CodePoints} (quoted : StringText text points) :
      ValueText text (.string points)
  /-- An array without items. -/
  | emptyArray {blanks : Text} (blank : Blanks blanks) :
      ValueText ('[' :: (blanks ++ [']'])) (.array [])
  /-- An array with items. -/
  | array {text : Text} {items : List Json} (inside : ItemsText text items) :
      ValueText ('[' :: (text ++ [']'])) (.array items)
  /-- An object without members. -/
  | emptyObject {blanks : Text} (blank : Blanks blanks) :
      ValueText ('\x7b' :: (blanks ++ ['\x7d'])) (.object [])
  /-- An object with members. -/
  | object {text : Text} {entries members : List (CodePoints × Json)}
      (inside : MembersText text entries) (gathers : Gathers entries members) :
      ValueText ('\x7b' :: (text ++ ['\x7d'])) (.object members)

/-- A value with the white space around it. -/
inductive ElementText : Text → Json → Prop where
  /-- White space, the value and white space. -/
  | padded {front text back : Text} {value : Json} (before : Blanks front)
      (inside : ValueText text value) (behind : Blanks back) :
      ElementText (front ++ (text ++ back)) value

/-- The items of an array, with commas between them. -/
inductive ItemsText : Text → List Json → Prop where
  /-- The last item. -/
  | one {text : Text} {item : Json} (last : ElementText text item) : ItemsText text [item]
  /-- An item in front of others. -/
  | more {text others : Text} {item : Json} {items : List Json} (first : ElementText text item)
      (rest : ItemsText others items) : ItemsText (text ++ ',' :: others) (item :: items)

/-- A member of an object: its name, a colon and its value. -/
inductive MemberText : Text → CodePoints × Json → Prop where
  /-- The name between white space, the colon and the value. -/
  | named {front text back element : Text} {name : CodePoints} {value : Json}
      (before : Blanks front) (quoted : StringText text name) (behind : Blanks back)
      (inside : ElementText element value) :
      MemberText (front ++ (text ++ (back ++ ':' :: element))) (name, value)

/-- The members of an object, with commas between them. -/
inductive MembersText : Text → List (CodePoints × Json) → Prop where
  /-- The last member. -/
  | one {text : Text} {entry : CodePoints × Json} (last : MemberText text entry) :
      MembersText text [entry]
  /-- A member in front of others. -/
  | more {text others : Text} {entry : CodePoints × Json} {entries : List (CodePoints × Json)}
      (first : MemberText text entry) (rest : MembersText others entries) :
      MembersText (text ++ ',' :: others) (entry :: entries)

end

/-- Whether a whole text is JSON and denotes a value. -/
def DocumentText (text : Text) (value : Json) : Prop :=
  ElementText text value

end Json
end DiscoveryFiles
