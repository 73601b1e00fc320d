/-!
# Kinds of discovery files

A site describes itself to AI systems in up to ten files.  Each kind of file has a canonical file
name, a code of the specification, a tag, and a tier that says how much it is asked for.
-/

namespace DiscoveryFiles

/-- How much a kind of file is asked for. -/
inductive Tier where
  /-- A site should have it in any case. -/
  | essential
  /-- A site is advised to have it. -/
  | recommended
  /-- A complete site has it. -/
  | complete
  deriving DecidableEq, Repr

/-- The name of a tier. -/
def Tier.name : Tier → String
  | essential => "essential"
  | recommended => "recommended"
  | complete => "complete"

/-- A kind of discovery file. -/
inductive Kind where
  /-- The site summary for language models. -/
  | llmsTxt
  /-- The page summary for language models. -/
  | llmTxt
  /-- The site summary as a web page. -/
  | llmsHtml
  /-- The interaction policy as text. -/
  | aiTxt
  /-- The interaction policy as data. -/
  | aiJson
  /-- The identity of the organisation. -/
  | identityJson
  /-- The names of the organisation. -/
  | brandTxt
  /-- Questions and answers. -/
  | faqAiTxt
  /-- The technical context. -/
  | developerAiTxt
  /-- The policy for crawlers. -/
  | robotsAiTxt
  deriving DecidableEq, Repr

namespace Kind

/-- All kinds, in the order of their codes, in which directories are scanned. -/
def all : List Kind :=
  [llmsTxt, llmTxt, llmsHtml, aiTxt, aiJson, identityJson, brandTxt, faqAiTxt, developerAiTxt,
    robotsAiTxt]

theorem mem_all (kind : Kind) : kind ∈ all := by
  cases kind <;> decide

/-- The canonical file name. -/
def fileName : Kind → String
  | llmsTxt => "llms.txt"
  | llmTxt => "llm.txt"
  | llmsHtml => "llms.html"
  | aiTxt => "ai.txt"
  | aiJson => "ai.json"
  | identityJson => "identity.json"
  | brandTxt => "brand.txt"
  | faqAiTxt => "faq-ai.txt"
  | developerAiTxt => "developer-ai.txt"
  | robotsAiTxt => "robots-ai.txt"

/-- The code of the specification. -/
def code : Kind → String
  | llmsTxt => "ADF-001"
  | llmTxt => "ADF-002"
  | llmsHtml => "ADF-003"
  | aiTxt => "ADF-004"
  | aiJson => "ADF-005"
  | identityJson => "ADF-006"
  | brandTxt => "ADF-007"
  | faqAiTxt => "ADF-008"
  | developerAiTxt => "ADF-009"
  | robotsAiTxt => "ADF-010"

/-- The tag of the kind. -/
def tag : Kind → String
  | llmsTxt => "llms-txt"
  | llmTxt => "llm-txt"
  | llmsHtml => "llms-html"
  | aiTxt => "ai-txt"
  | aiJson => "ai-json"
  | identityJson => "identity-json"
  | brandTxt => "brand-txt"
  | faqAiTxt => "faq-ai-txt"
  | developerAiTxt => "developer-ai-txt"
  | robotsAiTxt => "robots-ai-txt"

/-- The tier of the kind. -/
def tier : Kind → Tier
  | llmsTxt | aiTxt => .essential
  | aiJson | identityJson | brandTxt | faqAiTxt => .recommended
  | llmTxt | llmsHtml | developerAiTxt | robotsAiTxt => .complete

/-- The kind with a tag, if there is one. -/
def ofTag? (tag : String) : Option Kind :=
  all.find? (·.tag = tag)

/-- The kinds of the tier with a name; an unknown tier has none. -/
def ofTier (name : String) : List Kind :=
  all.filter (·.tier.name = name)

@[simp]
theorem ofTag?_tag (kind : Kind) : ofTag? kind.tag = some kind := by
  cases kind <;> decide

end Kind
end DiscoveryFiles
