import DiscoveryFiles.Number.Power

/-!
# Binary64

The floating-point numbers with a 53-bit significand, held exactly.  A decimal numeral is rounded
to the nearest of them, and halfway to the one with the even significand.
-/

namespace DiscoveryFiles

/-- A binary floating-point number of double precision. -/
inductive Binary64 where
  /-- Not a number. -/
  | nan
  /-- Too large a magnitude. -/
  | infinite (negative : Bool)
  /-- The number `significand * 2 ^ exponent`, or its negative. -/
  | finite (negative : Bool) (significand : Nat) (exponent : Int)
  deriving DecidableEq, Repr

namespace Binary64

/-- The whole number nearest to a quotient; of two equally near ones, the even one. -/
def divideToEven (numerator denominator : Nat) : Nat :=
  let quotient := numerator / denominator
  let twice := 2 * (numerator % denominator)
  if denominator < twice ∨ (twice = denominator ∧ quotient % 2 = 1) then quotient + 1 else quotient

/-- The whole number nearest to a quotient divided by a power of two. -/
def scaleDown (numerator denominator : Nat) (exponent : Int) : Nat :=
  divideToEven (numerator * twoTo (-exponent).toNat) (denominator * twoTo exponent.toNat)

/-- The exponent of the last place of a positive quotient, before rounding. -/
def lastPlace (numerator denominator : Nat) : Int :=
  let guess : Int := (numerator.log2 : Int) - denominator.log2 - 53
  let fits := numerator * twoTo (-guess).toNat < twoTo 53 * (denominator * twoTo guess.toNat)
  let place := if fits then guess else guess + 1
  if place < -1074 then -1074 else place

/-- The floating-point number nearest to a quotient. -/
def ofRatio (negative : Bool) (numerator denominator : Nat) : Binary64 :=
  if numerator = 0 then finite negative 0 (-1074)
  else
    let exponent := lastPlace numerator denominator
    let significand := scaleDown numerator denominator exponent
    let (significand, exponent) :=
      if significand = twoTo 53 then (twoTo 52, exponent + 1) else (significand, exponent)
    if 971 < exponent then infinite negative else finite negative significand exponent

/-- The number of decimal digits of a positive number. -/
def digitCount (n : Nat) : Nat :=
  (Nat.toDigits 10 n).length

/-- The floating-point number nearest to `digits * 10 ^ exponent`.  Magnitudes from `10 ^ 310` up
and below `10 ^ (-330)` are settled without writing the power out. -/
def ofDecimal (negative : Bool) (digits : Nat) (exponent : Int) : Binary64 :=
  let size := (digitCount digits : Int) + exponent
  if digits = 0 ∨ size < -330 then finite negative 0 (-1074)
  else if 310 < size then infinite negative
  else ofRatio negative (digits * tenTo exponent.toNat) (tenTo (-exponent).toNat)

/-- Whether a number is finite and has no fractional part. -/
def isWhole : Binary64 → Bool
  | finite _ significand exponent => significand % twoTo (-exponent).toNat == 0
  | _ => false

/-- Whether a number is neither zero; not-a-number is not zero. -/
def isNonzero : Binary64 → Bool
  | finite _ significand _ => significand != 0
  | _ => true

/-- The significand with its sign. -/
def signed (negative : Bool) (significand : Nat) : Int :=
  if negative then -significand else significand

end Binary64

/-- Compare `a * 2 ^ m` with `b * 2 ^ n`. -/
def compareScaled (a m b n : Int) : Ordering :=
  compare (a * twoTo (m - n).toNat) (b * twoTo (n - m).toNat)

end DiscoveryFiles
