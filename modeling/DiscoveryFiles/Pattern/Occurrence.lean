import DiscoveryFiles.Pattern.Search
import DiscoveryFiles.Pattern.Trail

/-!
# Occurrences of patterns

A string contains a match of a pattern if a stretch of the pattern starts at any of its places.
-/

namespace DiscoveryFiles
namespace Pattern

/-- Whether a stretch of a pattern occurs anywhere in a string. -/
def occursIn (pattern : Pattern) (points : CodePoints) : Bool :=
  let text := points.toArray
  match pattern.search? text with
  | some search => search.succeeds text
  | none => pattern.succeeds text

end Pattern
end DiscoveryFiles
