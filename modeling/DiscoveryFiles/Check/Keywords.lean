import DiscoveryFiles.Check.Empty
import DiscoveryFiles.Text.Lowercase

/-!
# Files with an expected vocabulary

Two kinds of files are free text that should mention at least one word of a vocabulary.
-/

namespace DiscoveryFiles
namespace Check

/-- Words of which the technical context should mention one. -/
def technicalWords : List String :=
  ["api", "stack", "framework", "language", "architecture", "endpoint", "technical", "developer"]

/-- Words of which the policy for crawlers should mention one. -/
def crawlerWords : List String :=
  ["crawler", "bot", "agent", "gptbot", "claudebot", "googlebot", "allow", "disallow", "block"]

/-- Check a free text for a vocabulary. -/
def vocabulary (words : List String) (message : String) (content : Text) : Findings :=
  if isBlank content then .error emptyMessage
  else
    let lower := content.lower
    Findings.require (words.any fun word => lower.holds word.toList) (.warning message)

/-- Check a technical context. -/
def developerAiTxt : Text → Findings :=
  vocabulary technicalWords "File SHOULD contain technical context (APIs, stack, architecture)"

/-- Check a policy for crawlers. -/
def robotsAiTxt : Text → Findings :=
  vocabulary crawlerWords "File SHOULD reference AI crawlers or define access policies"

end Check
end DiscoveryFiles
