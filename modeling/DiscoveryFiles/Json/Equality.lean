import DiscoveryFiles.Json.Basic

/-!
# Equality of JSON values

Numbers are equal when their exact values are, in whatever notation.  Truth values equal only each
other when they are compared themselves; inside arrays and objects they also equal the numbers
zero and one.  The order of members does not matter.
-/

namespace DiscoveryFiles
namespace Json

/-- An exact number, possibly infinite. -/
inductive Quantity where
  /-- The number `a * 2 ^ e`. -/
  | scaled (a e : Int)
  /-- A number beyond all others. -/
  | infinite (negative : Bool)
  /-- Not a number. -/
  | nan

/-- The quantity that a number or a truth value stands for. -/
def quantity? : Json → Option Quantity
  | boolean b => some (.scaled b.toNat 0)
  | integer n => some (.scaled n 0)
  | double (.finite negative significand exponent) =>
      some (.scaled (Binary64.signed negative significand) exponent)
  | double (.infinite negative) => some (.infinite negative)
  | double .nan => some .nan
  | _ => none

/-- Whether two quantities are the same; not-a-number is the same as itself. -/
def Quantity.same : Quantity → Quantity → Bool
  | scaled a m, scaled b n => compareScaled a m b n == .eq
  | infinite a, infinite b => a == b
  | nan, nan => true
  | _, _ => false

/-- Whether two atoms, which hold no further values, are the same. -/
def sameAtom (left right : Json) : Bool :=
  match left, right with
  | null, null => true
  | string s, string t => s == t
  | left, right =>
      match left.quantity?, right.quantity? with
      | some a, some b => a.same b
      | _, _ => false

mutual

/-- Whether two values inside arrays or objects are the same. -/
def same : Json → Json → Bool
  | array items, right =>
      match right with
      | array others => sameItems items others
      | _ => false
  | object members, right =>
      match right with
      | object others => members.length == others.length && sameMembers members others
      | _ => false
  | left, right => sameAtom left right

/-- Whether two lists of items are the same, place by place. -/
def sameItems : List Json → List Json → Bool
  | [], [] => true
  | item :: items, other :: others => same item other && sameItems items others
  | _, _ => false

/-- Whether each of the members has an equal of the same name among the others. -/
def sameMembers : List (CodePoints × Json) → List (CodePoints × Json) → Bool
  | [], _ => true
  | (name, value) :: members, others =>
      (match member? name others with
        | some other => same value other
        | none => false) && sameMembers members others

end

/-- Whether a value is not-a-number. -/
def isNan : Json → Bool
  | double .nan => true
  | _ => false

/-- Whether two values are equal.  Compared themselves, truth values equal only truth values, and
not-a-number equals nothing. -/
def equal (left right : Json) : Bool :=
  match left, right with
  | boolean a, boolean b => a == b
  | boolean _, _ => false
  | _, boolean _ => false
  | left, right => !left.isNan && !right.isNan && same left right

end Json
end DiscoveryFiles
