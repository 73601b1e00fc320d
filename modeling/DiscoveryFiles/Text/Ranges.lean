/-!
# Ranges of code points

A Unicode property is stored as a list of closed ranges of code points.
-/

namespace DiscoveryFiles
namespace Text

/-- Whether a number lies in one of the closed ranges. -/
def inRanges (ranges : List (Nat × Nat)) (number : Nat) : Bool :=
  ranges.any fun range => range.1 ≤ number && number ≤ range.2

theorem inRanges_iff {ranges : List (Nat × Nat)} {number : Nat} :
    inRanges ranges number = true ↔
      ∃ range ∈ ranges, range.1 ≤ number ∧ number ≤ range.2 := by
  simp [inRanges]

end Text
end DiscoveryFiles
