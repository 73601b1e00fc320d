import DiscoveryFiles.Pattern.Flag
import DiscoveryFiles.Pattern.Width
import DiscoveryFiles.Text.Blank
import DiscoveryFiles.Text.CodePoint
import DiscoveryFiles.Text.DecimalDigit
import DiscoveryFiles.Text.Word

/-!
# Patterns

A pattern describes stretches of a string.  Its meaning is a relation between the place where a
stretch starts and the place where it ends, which also lets anchors look at what stands around.
Patterns that remember what a group held, or that look around, need more than the two places.
-/

namespace DiscoveryFiles

/-- A property of characters that a letter names in a pattern. -/
inductive Property where
  /-- Decimal digits of any script. -/
  | digit
  /-- White space. -/
  | blank
  /-- Letters, numbers and the low line. -/
  | word
  /-- Decimal digits of ASCII. -/
  | asciiDigit
  /-- White space of ASCII. -/
  | asciiBlank
  /-- Letters and digits of ASCII and the low line. -/
  | asciiWord
  deriving DecidableEq, Repr

namespace Property

/-- Whether a code point has a property. -/
def holds : Property → Nat → Bool
  | digit, n => Text.isDecimal n
  | blank, n => Text.isBlank n
  | word, n => Text.isWord n
  | asciiDigit, n => 0x30 ≤ n && n ≤ 0x39
  | asciiBlank, n => n == 0x20 || 0x9 ≤ n && n ≤ 0xD
  | asciiWord, n => n < 0x80 && Text.isWord n

/-- The property as far as it goes within ASCII. -/
def withinAscii : Property → Property
  | digit | asciiDigit => asciiDigit
  | blank | asciiBlank => asciiBlank
  | word | asciiWord => asciiWord

end Property

/-- A part of a class of characters. -/
inductive ClassPart where
  /-- The code points from the first to the last. -/
  | range (first last : Nat)
  /-- The code points with a property. -/
  | having (property : Property)
  /-- The code points without a property. -/
  | lacking (property : Property)
  deriving DecidableEq, Repr

/-- Whether a part of a class holds a code point, or one of its variants. -/
def ClassPart.contains (folding : Pattern.Folding) : ClassPart → Nat → Bool
  | range first last, n => (folding.variants n).any fun m => first ≤ m && m ≤ last
  | having property, n => property.holds n
  | lacking property, n => !property.holds n

/-- A class of characters: the union of its parts, or what lies outside of it. -/
structure CharClass where
  /-- Whether the class is what lies outside its parts. -/
  negated : Bool
  /-- How far case is ignored. -/
  folding : Pattern.Folding
  /-- The parts. -/
  parts : List ClassPart
  deriving DecidableEq, Repr

/-- Whether a class holds a code point. -/
def CharClass.contains (cls : CharClass) (point : CodePoint) : Bool :=
  cls.negated != cls.parts.any (·.contains cls.folding point.number)

/-- The class of one code point. -/
def CharClass.single (folding : Pattern.Folding) (number : Nat) : CharClass :=
  ⟨false, folding, [.range number number]⟩

/-- The class of all code points. -/
def CharClass.any : CharClass :=
  ⟨true, .strict, []⟩

/-- The class of all code points but the line feed. -/
def CharClass.anyButFeed : CharClass :=
  ⟨true, .strict, [.range 0xA 0xA]⟩

/-- A condition on a place in a string. -/
inductive Anchor where
  /-- The start of the string. -/
  | start
  /-- The end of the string. -/
  | finish
  /-- The end of the string, or the place before a line feed that ends it. -/
  | lastLineEnd
  /-- The start of the string, or the place behind a line feed. -/
  | lineStart
  /-- The end of the string, or the place before a line feed. -/
  | lineEnd
  /-- Between a character with a property and something else. -/
  | edge (property : Property)
  /-- Neither at such an edge nor in an empty string. -/
  | noEdge (property : Property)
  deriving DecidableEq, Repr

namespace Pattern

/-- How a repetition goes about its count. -/
inductive Manner where
  /-- As many times as possible first. -/
  | greedy
  /-- As few times as possible first. -/
  | lazy
  /-- As many times as possible, and never fewer. -/
  | possessive
  deriving DecidableEq, Repr

/-- Where a pattern looks. -/
inductive Side where
  /-- At what follows. -/
  | ahead
  /-- At what comes before, over stretches of a width. -/
  | behind (width : Width)
  deriving DecidableEq, Repr

end Pattern

/-- A pattern. -/
inductive Pattern where
  /-- The empty stretch. -/
  | empty
  /-- One character of a class. -/
  | one (cls : CharClass)
  /-- The empty stretch at a place that meets a condition. -/
  | anchor (anchor : Anchor)
  /-- A stretch of the first pattern and then one of the second. -/
  | sequence (first second : Pattern)
  /-- A stretch of one of two patterns. -/
  | either (first second : Pattern)
  /-- At least `least` and at most `most` stretches of a pattern. -/
  | repeated (manner : Pattern.Manner) (body : Pattern) (least : Nat) (most : Option Nat)
  /-- A pattern between parentheses, whose stretch may be remembered under a number. -/
  | group (number : Option Nat) (body : Pattern)
  /-- The first stretch of a pattern that is found, whatever follows. -/
  | atomic (body : Pattern)
  /-- The empty stretch at a place around which a pattern has a stretch, or has none. -/
  | look (side : Pattern.Side) (wanted : Bool) (body : Pattern)
  /-- What a group held last, once more. -/
  | same (number : Nat) (folding : Pattern.Folding)
  /-- A stretch of the first pattern if a group has held something, and else of the second. -/
  | choose (number : Nat) (yes no : Pattern)
  deriving DecidableEq, Repr

namespace Pattern

/-- Whether a character with a property stands at an index. -/
def standsAt (property : Property) (text : Array CodePoint) (index : Nat) : Bool :=
  match text[index]? with
  | some point => property.holds point.number
  | none => false

/-- Whether a character with a property stands before an index. -/
def standsBefore (property : Property) (text : Array CodePoint) : Nat → Bool
  | 0 => false
  | index + 1 => standsAt property text index

/-- Whether a line feed stands at an index. -/
def feedAt (text : Array CodePoint) (index : Nat) : Bool :=
  text[index]? == some (.scalar '\n')

/-- The width of a pattern, given those of the groups that it may refer to. -/
def width (groups : List (Nat × Width)) : Pattern → Width
  | empty | anchor _ | look _ _ _ => .zero
  | one _ => .one
  | sequence first second => (first.width groups).plus (second.width groups)
  | either first second => (first.width groups).either (second.width groups)
  | repeated _ body least most => (body.width groups).times least most
  | group _ body => body.width groups
  | atomic body => body.width groups
  | same number _ => (groups.lookup number).getD .zero
  | choose _ yes no => (yes.width groups).either (no.width groups)

end Pattern

/-- Whether a place of a string meets a condition. -/
def Anchor.holds (text : Array CodePoint) (place : Nat) : Anchor → Bool
  | start => place == 0
  | finish => place == text.size
  | lastLineEnd =>
      place == text.size || (place + 1 == text.size && Pattern.feedAt text place)
  | lineStart => place == 0 || Pattern.feedAt text (place - 1)
  | lineEnd => place == text.size || Pattern.feedAt text place
  | edge property =>
      Pattern.standsBefore property text place != Pattern.standsAt property text place
  | noEdge property =>
      text.size != 0 &&
        Pattern.standsBefore property text place == Pattern.standsAt property text place

end DiscoveryFiles
