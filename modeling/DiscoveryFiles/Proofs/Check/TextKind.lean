import DiscoveryFiles.Service.Validation

/-!
# Kinds of text files

The eight kinds of files that hold text, with the check for each.
-/

namespace DiscoveryFiles
namespace Check

/-- A kind of file that holds text. -/
inductive TextKind where
  /-- The site summary for language models. -/
  | llmsTxt
  /-- The page summary for language models. -/
  | llmTxt
  /-- The site summary as a web page. -/
  | llmsHtml
  /-- The interaction policy as text. -/
  | aiTxt
  /-- The names of the organisation. -/
  | brandTxt
  /-- Questions and answers. -/
  | faqAiTxt
  /-- The technical context. -/
  | developerAiTxt
  /-- The policy for crawlers. -/
  | robotsAiTxt
  deriving DecidableEq, Repr

namespace TextKind

/-- The kind of discovery file. -/
def kind : TextKind → Kind
  | llmsTxt => .llmsTxt
  | llmTxt => .llmTxt
  | llmsHtml => .llmsHtml
  | aiTxt => .aiTxt
  | brandTxt => .brandTxt
  | faqAiTxt => .faqAiTxt
  | developerAiTxt => .developerAiTxt
  | robotsAiTxt => .robotsAiTxt

/-- The check for a kind. -/
def check : TextKind → Text → Findings
  | llmsTxt => Check.llmsTxt
  | llmTxt => Check.llmTxt
  | llmsHtml => Check.llmsHtml
  | aiTxt => Check.aiTxt
  | brandTxt => Check.brandTxt
  | faqAiTxt => Check.faqAiTxt
  | developerAiTxt => Check.developerAiTxt
  | robotsAiTxt => Check.robotsAiTxt

end TextKind

/-- A service checks a file of text by the check for its kind, whatever its state. -/
theorem findingsFor_textKind (tree : FileTree) (content : Text) (kind : TextKind) :
    Service.findingsFor tree content kind.kind = pure (kind.check content) := by
  cases kind <;> rfl

end Check
end DiscoveryFiles
