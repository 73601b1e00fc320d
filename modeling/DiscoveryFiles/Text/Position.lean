import DiscoveryFiles.Text.Basic

/-!
# Positions

A place in a text is reported by its index and by its line and column.
-/

namespace DiscoveryFiles
namespace Text

/-- A place in a text. -/
structure Position where
  /-- Number of characters before the place. -/
  index : Nat
  /-- Line of the place, counted from one. -/
  line : Nat
  /-- Column of the place in its line, counted from one. -/
  column : Nat
  deriving DecidableEq, Repr

/-- One more than the number of characters after the last separator. -/
def columnAfter {α : Type} [DecidableEq α] (feed : α) (before : List α) : Nat :=
  (before.reverse.takeWhile (· ≠ feed)).length + 1

/-- The place behind the first `index` characters, where `feed` ends a line. -/
def positionAt {α : Type} [DecidableEq α] (feed : α) (text : List α) (index : Nat) : Position :=
  let before := text.take index
  { index, line := before.count feed + 1, column := columnAfter feed before }

end Text
end DiscoveryFiles
