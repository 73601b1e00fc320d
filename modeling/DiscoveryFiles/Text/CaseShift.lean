/-!
# Case shifts

Letters of one case lie at a constant distance from their partners over whole runs of code points,
in which either every code point takes part or every second one.
-/

namespace DiscoveryFiles
namespace Text

/-- A run of code points that all lie at one distance from their partners. -/
structure CaseShift where
  /-- First code point of the run. -/
  first : Nat
  /-- Last code point of the run. -/
  last : Nat
  /-- Gap between neighbouring members of the run. -/
  step : Nat
  /-- Distance from a member to its partner. -/
  distance : Int

/-- Whether a code point is a member of the run. -/
def CaseShift.covers (shift : CaseShift) (number : Nat) : Bool :=
  shift.first ≤ number && number ≤ shift.last && (number - shift.first) % shift.step == 0

/-- The partner of a character, or the character itself where no run covers it. -/
def shiftCase (shifts : List CaseShift) (c : Char) : Char :=
  match shifts.find? (·.covers c.toNat) with
  | some shift => Char.ofNat (c.toNat + shift.distance).toNat
  | none => c

end Text
end DiscoveryFiles
