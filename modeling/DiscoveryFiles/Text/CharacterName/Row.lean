import DiscoveryFiles.Text.Basic

/-!
# Rows of names

Characters that follow each other have names with much in common.  A row writes the common beginning
once, and then how each name goes on.
-/

namespace DiscoveryFiles
namespace Text

/-- The names of characters that follow each other. -/
structure NameRow where
  /-- The first of the code points. -/
  first : Nat
  /-- How all of the names begin. -/
  beginning : String
  /-- How each of the names goes on, with commas between them. -/
  endings : List String

/-- The code point with a name, if the row has it. -/
def NameRow.number? (row : NameRow) (name : Text) : Option Nat :=
  if name.begins row.beginning then
    let endings := row.endings.flatMap fun line => cut ',' line.toList
    (endings.idxOf? (name.drop row.beginning.length)).map (row.first + ·)
  else none

end Text
end DiscoveryFiles
