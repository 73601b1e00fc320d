import DiscoveryFiles.Text.Ranges

/-!
# Blank characters

The characters that count as white space at the ends of a line and in a pattern.  Besides the
spaces and line breaks of Unicode they hold the four information separators U+001C to U+001F; the
zero-width space and the byte order mark are not among them.
-/

namespace DiscoveryFiles
namespace Text

/-- The blank code points, as disjoint ascending ranges. -/
def blankRanges : List (Nat × Nat) :=
  [
    (0x9, 0xD), (0x1C, 0x20), (0x85, 0x85), (0xA0, 0xA0), (0x1680, 0x1680), (0x2000, 0x200A),
    (0x2028, 0x2029), (0x202F, 0x202F), (0x205F, 0x205F), (0x3000, 0x3000)]

/-- Whether a code point is blank. -/
def isBlank (number : Nat) : Bool :=
  inRanges blankRanges number

end Text
end DiscoveryFiles
