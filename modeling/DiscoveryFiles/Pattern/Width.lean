/-!
# Widths of patterns

The least and the greatest number of characters that stretches of a pattern can have.  Numbers stop
at a bound that no string comes near.
-/

namespace DiscoveryFiles
namespace Pattern

/-- A range of numbers of characters. -/
structure Width where
  /-- The least number. -/
  least : Nat
  /-- The greatest number. -/
  most : Nat
  deriving DecidableEq, Repr

namespace Width

/-- The number that stands for all numbers from itself on. -/
def bound : Nat := 18446744073709551616

/-- A number, or the bound if it is above. -/
def capped (number : Nat) : Nat :=
  if number < bound then number else bound

/-- No character. -/
def zero : Width := ⟨0, 0⟩

/-- One character. -/
def one : Width := ⟨1, 1⟩

/-- The width of two stretches one after the other. -/
def plus (first second : Width) : Width :=
  ⟨capped (first.least + second.least), capped (first.most + second.most)⟩

/-- The width of a stretch of either of two widths. -/
def either (first second : Width) : Width :=
  ⟨if first.least < second.least then first.least else second.least,
    if first.most < second.most then second.most else first.most⟩

/-- The width of so many stretches.  Without a greatest count there is no greatest width, unless the
stretches are empty. -/
def times (width : Width) (least : Nat) (most : Option Nat) : Width :=
  ⟨capped (width.least * least),
    match most with
    | some most => capped (width.most * most)
    | none => if width.most = 0 then 0 else bound⟩

end Width
end Pattern
end DiscoveryFiles
