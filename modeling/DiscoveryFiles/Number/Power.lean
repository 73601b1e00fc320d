/-!
# Powers

The powers of the two bases that numerals are written in.
-/

namespace DiscoveryFiles

/-- The power of two with an exponent. -/
def twoTo (exponent : Nat) : Nat := Nat.pow 2 exponent

/-- The power of ten with an exponent. -/
def tenTo (exponent : Nat) : Nat := Nat.pow 10 exponent

end DiscoveryFiles
