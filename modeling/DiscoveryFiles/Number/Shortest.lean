import DiscoveryFiles.Number.Binary64
import DiscoveryFiles.Text.Basic

/-!
# Shortest decimals

A floating-point number is written with the fewest digits that read back as the same number; of
several such numerals the nearest one is taken, and of two equally near ones the one that ends in
an even digit.
-/

namespace DiscoveryFiles
namespace Binary64

/-- The reals that round to a floating-point number, as whole numbers over one denominator. -/
structure Neighbourhood where
  /-- The number itself. -/
  centre : Nat
  /-- The lower end. -/
  low : Nat
  /-- The upper end. -/
  high : Nat
  /-- The common denominator. -/
  denominator : Nat
  /-- Whether the ends round to the number too. -/
  closed : Bool

/-- The neighbourhood of a positive floating-point number. -/
def neighbourhood (significand : Nat) (exponent : Int) : Neighbourhood :=
  let unit := twoTo (exponent - 2).toNat
  let below := if significand = twoTo 52 ∧ -1074 < exponent then 1 else 2
  { centre := 4 * significand * unit
    low := (4 * significand - below) * unit
    high := (4 * significand + 2) * unit
    denominator := twoTo (2 - exponent).toNat
    closed := significand % 2 == 0 }

/-- Whether `digits * 10 ^ place` lies in the neighbourhood. -/
def Neighbourhood.contains (near : Neighbourhood) (digits : Nat) (place : Int) : Bool :=
  let value := digits * tenTo place.toNat * near.denominator
  let scale := tenTo (-place).toNat
  if near.closed then near.low * scale ≤ value && value ≤ near.high * scale
  else near.low * scale < value && value < near.high * scale

/-- The least `k` with the centre below `10 ^ k`. -/
def Neighbourhood.magnitude (near : Neighbourhood) : Int :=
  let whole := near.centre / near.denominator
  if 0 < whole then digitCount whole
  else 1 - (digitCount ((near.denominator + near.centre - 1) / near.centre - 1) : Int)

/-- Of the two multiples of `10 ^ place` around the centre, the nearest one in the neighbourhood. -/
def Neighbourhood.nearest? (near : Neighbourhood) (place : Int) : Option Nat :=
  let numerator := near.centre * tenTo (-place).toNat
  let denominator := near.denominator * tenTo place.toNat
  let below := numerator / denominator
  let twice := 2 * (numerator % denominator)
  let above := below + 1
  match near.contains below place, near.contains above place with
  | true, true =>
      if denominator < twice ∨ (twice = denominator ∧ below % 2 = 1) then some above else some below
  | true, false => some below
  | false, true => some above
  | false, false => none

/-- A decimal numeral: `digits * 10 ^ place`. -/
structure Numeral where
  /-- The digits, read as a whole number. -/
  digits : Nat
  /-- The power of ten of the last digit. -/
  place : Int

/-- The shortest numeral of a positive floating-point number; seventeen digits always suffice. -/
def shortest (significand : Nat) (exponent : Int) : Numeral :=
  let near := neighbourhood significand exponent
  let magnitude := near.magnitude
  let found := (List.range 17).findSome? fun n =>
    let place := magnitude - (n + 1 : Nat)
    (near.nearest? place).map fun digits => ⟨digits, place⟩
  found.getD ⟨near.centre / near.denominator, 0⟩

/-- Where numbers are written without an exponent, and how the exponent is written. -/
structure Layout where
  /-- The point stands right of this place. -/
  pointAfter : Int
  /-- The point stands at most at this place. -/
  pointUpTo : Int
  /-- Least number of digits of an exponent. -/
  exponentWidth : Nat

/-- Numbers from `1e-4` up to below `1e16` are written without an exponent, all others with one of
at least two digits and a sign. -/
def numberLayout : Layout := ⟨-4, 16, 2⟩

/-- The digits of a number, filled up with leading zeros. -/
def paddedDigits (width : Nat) (n : Nat) : Text :=
  let digits := Nat.toDigits 10 n
  List.replicate (width - digits.length) '0' ++ digits

/-- The digits of a numeral without trailing zeros. -/
def significantDigits (digits : Nat) : Text :=
  ((Nat.toDigits 10 digits).reverse.dropWhile (· = '0')).reverse

/-- Write digits whose point stands before or behind them at the given place. -/
def writeDigits (layout : Layout) (digits : Text) (point : Int) : Text :=
  if layout.pointAfter < point ∧ point ≤ layout.pointUpTo then
    if point ≤ 0 then '0' :: '.' :: List.replicate (-point).toNat '0' ++ digits
    else
      let before := digits.take point.toNat
      let after := digits.drop point.toNat
      before ++ List.replicate (point.toNat - before.length) '0' ++
        '.' :: (if after.isEmpty then ['0'] else after)
  else
    let exponent := point - 1
    let sign := if exponent < 0 then '-' else '+'
    digits.take 1 ++ (if digits.length ≤ 1 then [] else '.' :: digits.drop 1) ++
      'e' :: sign :: paddedDigits layout.exponentWidth exponent.natAbs

/-- The numeral of a finite number of either sign. -/
def writeFinite (layout : Layout) (negative : Bool) (significand : Nat) (exponent : Int) : Text :=
  let sign := if negative then ['-'] else []
  if significand = 0 then sign ++ ['0', '.', '0']
  else
    let numeral := shortest significand exponent
    let point := (digitCount numeral.digits : Int) + numeral.place
    sign ++ writeDigits layout (significantDigits numeral.digits) point

end Binary64
end DiscoveryFiles
