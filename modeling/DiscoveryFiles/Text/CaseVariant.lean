import DiscoveryFiles.Text.Lowercase

/-!
# Case variants

The code points that mean the same as a given one when case is ignored.  Besides capitals and
small letters these are small letters that share a capital, such as the two small sigmas.
-/

namespace DiscoveryFiles
namespace Text

/-- The small letters that share a capital. -/
def sharedCapitals : List (List Nat) :=
  [
    [0x69, 0x131], [0x73, 0x17F], [0xB5, 0x3BC], [0x345, 0x3B9, 0x1FBE], [0x390, 0x1FD3],
    [0x3B0, 0x1FE3], [0x3B2, 0x3D0], [0x3B5, 0x3F5], [0x3B8, 0x3D1], [0x3BA, 0x3F0],
    [0x3C0, 0x3D6], [0x3C1, 0x3F1], [0x3C2, 0x3C3], [0x3C6, 0x3D5], [0x432, 0x1C80],
    [0x434, 0x1C81], [0x43E, 0x1C82], [0x441, 0x1C83], [0x442, 0x1C84, 0x1C85], [0x44A, 0x1C86],
    [0x463, 0x1C87], [0x1C88, 0xA64B], [0x1E61, 0x1E9B], [0xFB05, 0xFB06]]

/-- The one small letter of a code point; the dotted capital I has the plain i. -/
def smallForm (number : Nat) : Nat :=
  if number == 0x130 then 0x69
  else
    match lowercaseShifts.find? (·.covers number) with
    | some shift => (number + shift.distance).toNat
    | none => number

/-- The code points other than itself that have a given small letter. -/
def capitalForms (small : Nat) : List Nat :=
  let shifted := lowercaseShifts.filterMap fun shift =>
    let capital := ((small : Int) - shift.distance).toNat
    if shift.covers capital then some capital else none
  if small == 0x69 then 0x130 :: shifted else shifted

/-- All code points that mean the same as a given one, itself included. -/
def caseVariants (number : Nat) : List Nat :=
  let small := smallForm number
  ((sharedCapitals.find? (·.contains small)).getD [small]).flatMap fun form =>
    form :: capitalForms form

/-- The code points that mean the same as a given one if only the case of ASCII letters counts
as one. -/
def asciiCaseVariants (number : Nat) : List Nat :=
  if 0x41 ≤ number && number ≤ 0x5A then [number, number + 0x20]
  else if 0x61 ≤ number && number ≤ 0x7A then [number, number - 0x20]
  else [number]

end Text
end DiscoveryFiles
