import DiscoveryFiles.Text.Blank
import DiscoveryFiles.Text.DecimalDigit
import DiscoveryFiles.Text.Identifier
import DiscoveryFiles.Text.Word
import Mathlib.Data.Nat.Digits.Defs

/-!
# Written patterns

The patterns of characters and their classes, conditions on places, groups, alternatives and greedy
or lazy repetitions are written here as trees.  A tree has a text, which is how the pattern is
written, and a language: the words that may stand between what comes before them in a string and
what comes behind them.  Neither mentions how texts are read or how strings are searched.

Left out is what refers to a group, looks around or holds on to what it found, what sets flags, and
remarks.  A character may be written as itself, with a backslash, by the letter of a control
character, or by its number in hexadecimal or octal digits, but not by its name.
-/

namespace DiscoveryFiles
namespace Pattern

/-! ## Characters by number -/

/-- A hexadecimal digit, for which a capital letter may stand. -/
structure HexDigit where
  /-- The value of the digit. -/
  value : Fin 16
  /-- Whether a letter is a capital. -/
  capital : Bool

/-- The character of a hexadecimal digit. -/
def HexDigit.letter (digit : HexDigit) : Char :=
  if digit.value.val < 10 then Char.ofNat ('0'.toNat + digit.value)
  else Char.ofNat ((if digit.capital then 'A' else 'a').toNat + (digit.value - 10))

/-- The character of a decimal or octal digit. -/
def digitLetter (digit : Nat) : Char :=
  Char.ofNat ('0'.toNat + digit)

/-- The letters that announce a number of hexadecimal digits. -/
inductive HexMark where
  /-- Two digits. -/
  | x
  /-- Four digits. -/
  | u
  /-- Eight digits. -/
  | U

/-- The character of a mark. -/
def HexMark.letter : HexMark → Char
  | x => 'x'
  | u => 'u'
  | U => 'U'

/-- The number of digits that a mark announces. -/
def HexMark.width : HexMark → Nat
  | x => 2
  | u => 4
  | U => 8

/-- The number that hexadecimal digits write. -/
def hexNumber (digits : List HexDigit) : Nat :=
  Nat.ofDigits 16 (digits.map (·.value.val)).reverse

/-- The number that octal digits write. -/
def octalNumber (digits : List (Fin 8)) : Nat :=
  Nat.ofDigits 8 (digits.map (·.val)).reverse

/-- An octal digit is not the next character of a text. -/
def LacksOctal (text : CodePoints) : Prop :=
  ∀ digit : Fin 8, text.head? ≠ some (.scalar (digitLetter digit))

/-! ## Escapes -/

/-- The control characters that have a letter both inside and outside of classes. -/
inductive Control where
  /-- The bell. -/
  | bell
  /-- The horizontal tab. -/
  | tab
  /-- The line feed. -/
  | lineFeed
  /-- The vertical tab. -/
  | verticalTab
  /-- The form feed. -/
  | formFeed
  /-- The carriage return. -/
  | carriageReturn

/-- The letter of a control character. -/
def Control.letter : Control → Char
  | bell => 'a'
  | tab => 't'
  | lineFeed => 'n'
  | verticalTab => 'v'
  | formFeed => 'f'
  | carriageReturn => 'r'

/-- The number of a control character. -/
def Control.number : Control → Nat
  | bell => 0x7
  | tab => 0x9
  | lineFeed => 0xA
  | verticalTab => 0xB
  | formFeed => 0xC
  | carriageReturn => 0xD

/-- Whether a code point is a letter or a digit of ASCII. -/
def isAlphanumeric : CodePoint → Bool
  | .scalar c => c.isAlphanum
  | .surrogate _ => false

/-- One character written with a backslash. -/
inductive Escape where
  /-- The character itself, which is no letter and no digit. -/
  | itself (point : CodePoint) (unnamed : isAlphanumeric point = false)
  /-- The letter of a control character. -/
  | control (control : Control)
  /-- A mark and hexadecimal digits. -/
  | hex (mark : HexMark) (digits : List HexDigit) (width_eq : digits.length = mark.width)
    (inside : hexNumber digits ≤ 0x10FFFF)
  /-- Up to three octal digits. -/
  | octal (first : Fin 8) (others : List (Fin 8)) (few : others.length ≤ 2)
    (inside : octalNumber (first :: others) ≤ 0o377)

/-- What stands behind the backslash. -/
def Escape.body : Escape → CodePoints
  | itself point _ => [point]
  | control letter => [.scalar letter.letter]
  | hex mark digits _ _ => .scalar mark.letter :: digits.map fun digit => .scalar digit.letter
  | octal first others _ _ =>
      (first :: others).map fun digit : Fin 8 => .scalar (digitLetter digit)

/-- The number of the character. -/
def Escape.number : Escape → Nat
  | itself point _ => point.number
  | control letter => letter.number
  | hex _ digits _ _ => hexNumber digits
  | octal first others _ _ => octalNumber (first :: others)

/-- What follows is no further octal digit, unless there are three already. -/
def Escape.Fits : Escape → CodePoints → Prop
  | octal _ others _ _, text => others.length = 2 ∨ LacksOctal text
  | _, _ => True

/-- Octal digits are no number of a group: a zero comes first, or there are three. -/
def Escape.IsNoReference : Escape → Prop
  | octal first others _ _ => first = 0 ∨ others.length = 2
  | _ => True

/-- The kinds of characters that have letters. -/
inductive Category where
  /-- Decimal digits. -/
  | digit
  /-- White space. -/
  | blank
  /-- Letters, numbers and the low line. -/
  | word

/-- The letter of a kind of characters, or of those outside of it. -/
def Category.letter : Category → Bool → Char
  | digit, false => 'd'
  | digit, true => 'D'
  | blank, false => 's'
  | blank, true => 'S'
  | word, false => 'w'
  | word, true => 'W'

/-- A code point belongs to a kind of characters. -/
def Category.Holds : Category → CodePoint → Prop
  | digit, point => Text.isDecimal point.number = true
  | blank, point => Text.isBlank point.number = true
  | word, point => Text.isWord point.number = true

/-! ## Classes -/

/-- One character in a class. -/
inductive Member where
  /-- The character itself. -/
  | plain (point : CodePoint) (noEscape : point ≠ .scalar '\\')
  /-- The character with a backslash. -/
  | escape (escape : Escape)
  /-- The backspace, whose letter has another meaning outside of classes. -/
  | backspace

/-- How a character in a class is written. -/
def Member.written : Member → CodePoints
  | plain point _ => [point]
  | escape written => .scalar '\\' :: written.body
  | backspace => [.scalar '\\', .scalar 'b']

/-- The number of a character in a class. -/
def Member.number : Member → Nat
  | plain point _ => point.number
  | escape written => written.number
  | backspace => 0x8

/-- What follows is not read as part of the character. -/
def Member.Fits : Member → CodePoints → Prop
  | escape written, text => written.Fits text
  | _, _ => True

/-- A part of a class. -/
inductive Part where
  /-- A kind of characters, or those outside of it. -/
  | category (category : Category) (lacking : Bool)
  /-- One character. -/
  | single (member : Member)
  /-- The characters from one to another, which is not a bracket. -/
  | range (first last : Member) (ordered : first.number ≤ last.number)
    (goesOn : last.written ≠ [.scalar ']'])

/-- How a part of a class is written. -/
def Part.written : Part → CodePoints
  | category kind lacking => [.scalar '\\', .scalar (kind.letter lacking)]
  | single member => member.written
  | range first last _ _ => first.written ++ .scalar '-' :: last.written

/-- What follows is not read as part of the last character. -/
def Part.Fits : Part → CodePoints → Prop
  | category _ _, _ => True
  | single last, text | range _ last _ _, text => last.Fits text

/-- A part of a class holds a code point. -/
def Part.Holds : Part → CodePoint → Prop
  | category kind false, point => kind.Holds point
  | category kind true, point => ¬ kind.Holds point
  | single member, point => point.number = member.number
  | range first last _ _, point => first.number ≤ point.number ∧ point.number ≤ last.number

/-- A part of a class is a range. -/
def Part.isRange : Part → Bool
  | range _ _ _ _ => true
  | _ => false

/-- How the parts of a class are written. -/
def partsWritten (parts : List Part) : CodePoints :=
  parts.flatMap Part.written

/-- The parts behind the first one can be told from each other and from the end of the class: none
is read as part of the one before or starts with a bracket, and a hyphen stands behind a range or
ends the class. -/
def PartsGoOn : Part → List Part → Prop
  | _, [] => True
  | part, next :: others =>
      part.Fits next.written ∧ next.written.head? ≠ some (.scalar ']') ∧
        (part.isRange = false → next.written.head? = some (.scalar '-') →
          next.written = [.scalar '-'] ∧ others = []) ∧
        PartsGoOn next others

/-- A class between brackets. -/
structure Bracket where
  /-- Whether the class is what lies outside of its parts. -/
  negated : Bool
  /-- The first part. -/
  first : Part
  /-- The other parts. -/
  others : List Part
  /-- Only the sign of what lies outside is a circumflex at the start. -/
  unsigned : negated = false → first.written.head? ≠ some (.scalar '^')
  /-- The parts can be told from each other. -/
  goOn : PartsGoOn first others

/-- How a class is written. -/
def Bracket.written (bracket : Bracket) : CodePoints :=
  .scalar '[' :: (if bracket.negated then [.scalar '^'] else []) ++
    partsWritten (bracket.first :: bracket.others) ++ [.scalar ']']

/-- A class holds a code point. -/
def Bracket.Holds (bracket : Bracket) (point : CodePoint) : Prop :=
  if bracket.negated then ∀ part ∈ bracket.first :: bracket.others, ¬ part.Holds point
  else ∃ part ∈ bracket.first :: bracket.others, part.Holds point

/-! ## Single characters -/

/-- The characters with a meaning of their own outside of classes. -/
def signs : List Char :=
  ['\\', '.', '^', '$', '*', '+', '?', '\x7b', '[', '|', '(', ')']

/-- What stands for one character. -/
inductive Single where
  /-- Any character but the line feed. -/
  | dot
  /-- An opening brace that opens no counts. -/
  | brace
  /-- A character that means itself. -/
  | plain (point : CodePoint) (ordinary : ∀ c ∈ signs, point ≠ .scalar c)
  /-- A character with a backslash. -/
  | escape (escape : Escape) (noReference : escape.IsNoReference)
  /-- A kind of characters, or those outside of it. -/
  | category (category : Category) (lacking : Bool)
  /-- A class. -/
  | bracket (bracket : Bracket)

/-- How a single character is written. -/
def Single.written : Single → CodePoints
  | dot => [.scalar '.']
  | brace => [.scalar '\x7b']
  | plain point _ => [point]
  | escape written _ => .scalar '\\' :: written.body
  | category kind lacking => [.scalar '\\', .scalar (kind.letter lacking)]
  | bracket cls => cls.written

/-- A code point is one of those that are meant. -/
def Single.Holds : Single → CodePoint → Prop
  | dot, point => point ≠ .scalar '\n'
  | brace, point => point = .scalar '\x7b'
  | plain other _, point => point = other
  | escape written _, point => point.number = written.number
  | category kind false, point => kind.Holds point
  | category kind true, point => ¬ kind.Holds point
  | bracket cls, point => cls.Holds point

/-! ## Places -/

/-- What stands for a condition on a place. -/
inductive Place where
  /-- The start of the string. -/
  | caret
  /-- The end of the string, or the place before a line feed that ends it. -/
  | dollar
  /-- The start of the string. -/
  | start
  /-- The end of the string. -/
  | finish
  /-- An edge of a word. -/
  | edge
  /-- No edge of a word, in a string that is not empty. -/
  | noEdge

/-- How a condition on a place is written. -/
def Place.written : Place → CodePoints
  | caret => [.scalar '^']
  | dollar => [.scalar '$']
  | start => [.scalar '\\', .scalar 'A']
  | finish => [.scalar '\\', .scalar 'Z']
  | edge => [.scalar '\\', .scalar 'b']
  | noEdge => [.scalar '\\', .scalar 'B']

/-- A character of a word is next to a place. -/
def IsWordAt (point? : Option CodePoint) : Prop :=
  ∃ point, point? = some point ∧ Category.word.Holds point

/-- The place between two parts of a string meets a condition. -/
def Place.Holds : Place → CodePoints → CodePoints → Prop
  | caret, before, _ => before = []
  | dollar, _, behind => behind = [] ∨ behind = [.scalar '\n']
  | start, before, _ => before = []
  | finish, _, behind => behind = []
  | edge, before, behind => ¬ (IsWordAt before.getLast? ↔ IsWordAt behind.head?)
  | noEdge, before, behind =>
      ¬ (before = [] ∧ behind = []) ∧ (IsWordAt before.getLast? ↔ IsWordAt behind.head?)

/-! ## Quantifiers -/

/-- The bound that every count stays below. -/
def countBound : Nat := 4294967295

/-- The greatest number of digits of a count. -/
def countDigits : Nat := 4300

/-- How digits are written. -/
def digitsWritten (digits : List (Fin 10)) : CodePoints :=
  digits.map fun digit : Fin 10 => .scalar (digitLetter digit)

/-- A count between braces. -/
structure Count where
  /-- The digits. -/
  digits : List (Fin 10)
  /-- There is a digit. -/
  nonempty : digits ≠ []
  /-- There are not too many digits. -/
  short : digits.length ≤ countDigits
  /-- The count is below the bound. -/
  small : Nat.ofDigits 10 (digits.map (·.val)).reverse < countBound

/-- The number that a count writes. -/
def Count.number (count : Count) : Nat :=
  Nat.ofDigits 10 (count.digits.map (·.val)).reverse

/-- How often something is repeated. -/
inductive Repetition where
  /-- Any number of times. -/
  | star
  /-- At least once. -/
  | plus
  /-- At most once. -/
  | question
  /-- So many times. -/
  | exactly (count : Count)
  /-- Any number of times, or at least so many times. -/
  | atLeast (least : Option Count)
  /-- At most so many times, and maybe at least so many times. -/
  | upTo (least : Option Count) (most : Count)
    (ordered : ∀ count, least = some count → count.number ≤ most.number)

/-- How a count that may be left out is written. -/
def countWritten (count : Option Count) : CodePoints :=
  digitsWritten (count.elim [] Count.digits)

/-- How a repetition is written. -/
def Repetition.written : Repetition → CodePoints
  | star => [.scalar '*']
  | plus => [.scalar '+']
  | question => [.scalar '?']
  | exactly count => .scalar '\x7b' :: digitsWritten count.digits ++ [.scalar '\x7d']
  | atLeast least => .scalar '\x7b' :: countWritten least ++ [.scalar ',', .scalar '\x7d']
  | upTo least most _ =>
      .scalar '\x7b' :: countWritten least ++
        .scalar ',' :: digitsWritten most.digits ++ [.scalar '\x7d']

/-- The least number of repetitions. -/
def Repetition.least : Repetition → Nat
  | star | question => 0
  | plus => 1
  | exactly count => count.number
  | atLeast least | upTo least _ _ => least.elim 0 Count.number

/-- The greatest number of repetitions, if there is one. -/
def Repetition.most : Repetition → Option Nat
  | star | plus | atLeast _ => none
  | question => some 1
  | exactly count => some count.number
  | upTo _ most _ => some most.number

/-- A repetition, which may be lazy. -/
structure Quantifier where
  /-- How often something is repeated. -/
  repetition : Repetition
  /-- Whether fewer repetitions are preferred. -/
  isLazy : Bool

/-- How a quantifier is written, if there is one. -/
def quantifierWritten : Option Quantifier → CodePoints
  | none => []
  | some quantifier =>
      quantifier.repetition.written ++ if quantifier.isLazy then [.scalar '?'] else []

/-- What stands behind the opening brace of counts, however large these are. -/
def ClosesCounts (text : CodePoints) : Prop :=
  (∃ low, low ≠ [] ∧ text = digitsWritten low ++ [.scalar '\x7d']) ∨
    ∃ low high, text = digitsWritten low ++ .scalar ',' :: digitsWritten high ++ [.scalar '\x7d']

/-- An opening brace before a text opens counts. -/
def OpensCounts (text : CodePoints) : Prop :=
  ∃ counts, ClosesCounts counts ∧ counts <+: text

/-- A single character is not read together with what follows it: an opening brace opens no counts,
and octal digits do not go on. -/
def Single.Fits : Single → CodePoints → Prop
  | brace, text => ¬ OpensCounts text
  | escape written _, text => written.Fits text
  | _, _ => True

/-! ## Expressions -/

/-- What opens a group. -/
inductive GroupMark where
  /-- A parenthesis. -/
  | plain
  /-- A parenthesis and the mark of a group that is not remembered. -/
  | silent
  /-- A parenthesis and a name. -/
  | named (name : CodePoints) (identifies : name.isIdentifier = true)

/-- How the start of a group is written. -/
def GroupMark.written : GroupMark → CodePoints
  | plain => [.scalar '(']
  | silent => [.scalar '(', .scalar '?', .scalar ':']
  | named name _ =>
      [.scalar '(', .scalar '?', .scalar 'P', .scalar '<'] ++ name ++ [.scalar '>']

/-- The name of a group. -/
def GroupMark.names : GroupMark → List CodePoints
  | plain | silent => []
  | named name _ => [name]

mutual

/-- Alternatives, of which there is at least one. -/
inductive Expression where
  /-- The last alternative. -/
  | last (row : Row)
  /-- An alternative before others. -/
  | either (row : Row) (others : Expression)

/-- Items one after the other. -/
inductive Row where
  /-- No further item. -/
  | done
  /-- A condition on the place. -/
  | place (place : Place) (behind : Row)
  /-- A single character, which may be repeated. -/
  | single (single : Single) (quantifier : Option Quantifier) (behind : Row)
  /-- A group, which may be repeated. -/
  | group (mark : GroupMark) (body : Expression) (quantifier : Option Quantifier) (behind : Row)

end

mutual

/-- How alternatives are written. -/
def Expression.written : Expression → CodePoints
  | .last row => row.written
  | .either row others => row.written ++ .scalar '|' :: others.written

/-- How items are written. -/
def Row.written : Row → CodePoints
  | .done => []
  | .place place behind => place.written ++ behind.written
  | .single single quantifier behind =>
      single.written ++ quantifierWritten quantifier ++ behind.written
  | .group mark body quantifier behind =>
      mark.written ++ body.written ++ .scalar ')' :: quantifierWritten quantifier ++
        behind.written

end

mutual

/-- The names of the groups, in the order in which they open. -/
def Expression.names : Expression → List CodePoints
  | .last row => row.names
  | .either row others => row.names ++ others.names

/-- The names of the groups, in the order in which they open. -/
def Row.names : Row → List CodePoints
  | .done => []
  | .place _ behind | .single _ _ behind => behind.names
  | .group mark body _ behind => mark.names ++ body.names ++ behind.names

end

mutual

/-- No character is read together with what follows it. -/
def Expression.Fits : Expression → Prop
  | .last row => row.Fits
  | .either row others => row.Fits ∧ others.Fits

/-- No character is read together with what follows it. -/
def Row.Fits : Row → Prop
  | .done => True
  | .place _ behind => behind.Fits
  | .single single quantifier behind =>
      single.Fits (quantifierWritten quantifier ++ behind.written) ∧ behind.Fits
  | .group _ body _ behind => body.Fits ∧ behind.Fits

end

/-- The text of an expression can be read in no other way, and no two groups share a name. -/
structure Expression.IsValid (expression : Expression) : Prop where
  /-- No character is read together with what follows it. -/
  fits : expression.Fits
  /-- The names of the groups differ. -/
  names_nodup : expression.names.Nodup

/-! ## Languages -/

/-- The words that may stand between what comes before them and what comes behind them. -/
abbrev Language := CodePoints → CodePoints → CodePoints → Prop

namespace Language

/-- A word of the first language and then one of the second. -/
def followedBy (first second : Language) : Language := fun before word behind =>
  ∃ start rest, word = start ++ rest ∧ first before start (rest ++ behind) ∧
    second (before ++ start) rest behind

/-- So many words of a language one after the other. -/
inductive Power (language : Language) : Nat → Language where
  /-- No word. -/
  | zero (before behind : CodePoints) : Power language 0 before [] behind
  /-- One word and then the others. -/
  | succ {times : Nat} {before start rest behind : CodePoints}
      (first : language before start (rest ++ behind))
      (others : Power language times (before ++ start) rest behind) :
      Power language (times + 1) before (start ++ rest) behind

/-- Words of a language one after the other, as often as a quantifier allows. -/
def quantified (language : Language) : Option Quantifier → Language
  | none => language
  | some quantifier => fun before word behind =>
      ∃ times, quantifier.repetition.least ≤ times ∧
        (∀ bound, quantifier.repetition.most = some bound → times ≤ bound) ∧
        Power language times before word behind

end Language

/-- The words of one character. -/
def Single.Denotes (single : Single) : Language := fun _ word _ =>
  ∃ point, word = [point] ∧ single.Holds point

mutual

/-- The language of alternatives. -/
def Expression.Denotes : Expression → Language
  | .last row => row.Denotes
  | .either row others => fun before word behind =>
      row.Denotes before word behind ∨ others.Denotes before word behind

/-- The language of items one after the other. -/
def Row.Denotes : Row → Language
  | .done => fun _ word _ => word = []
  | .place place rest => fun before word behind =>
      place.Holds before (word ++ behind) ∧ rest.Denotes before word behind
  | .single single quantifier rest =>
      (Language.quantified single.Denotes quantifier).followedBy rest.Denotes
  | .group _ body quantifier rest =>
      (Language.quantified body.Denotes quantifier).followedBy rest.Denotes

end

/-- Somewhere in a string stands a word of an expression. -/
def Expression.OccursIn (expression : Expression) (points : CodePoints) : Prop :=
  ∃ before word behind, points = before ++ word ++ behind ∧
    expression.Denotes before word behind

end Pattern
end DiscoveryFiles
