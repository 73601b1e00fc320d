import DiscoveryFiles.Check.Empty
import DiscoveryFiles.Text.Lowercase

/-!
# Summaries in Markdown

A summary begins with a first-level heading in its first line that is not blank, and has a quote
that describes the site.  For a site summary some sections are recommended as well.
-/

namespace DiscoveryFiles
namespace Check

/-- The trimmed first line that is not blank, and its number, where the first of these lines has
the given number. -/
def firstFilled? (number : Nat) : List Text → Option (Nat × Text)
  | [] => none
  | line :: lines =>
      if isBlank line then firstFilled? (number + 1) lines else some (number, line.trim)

/-- Whether a line is a quote. -/
def hasQuote (lines : List Text) : Bool :=
  lines.any (·.trim.begins "> ")

/-- The titles of the second-level headings, in lower case. -/
def sectionTitles (lines : List Text) : List Text :=
  (lines.filter (·.trim.begins "## ")).map fun line => Text.lower (line.trim.drop 3)

/-- The recommended sections, by the word that a title should hold and the name to report. -/
def recommendedSections : List (String × String) :=
  [("about", "About"), ("services", "Services"), ("contact", "Contact")]

/-- The errors in the first line of a site summary. -/
def headingFindings (number : Nat) (line : Text) : Findings :=
  if line = ['#'] then
    .errorAt number "H1 heading MUST contain text after the \"# \" prefix"
  else if line.begins "# " then .none
  else .errorAt number "File MUST begin with a Markdown H1 heading (# Title)"

/-- The warnings about the sections of a site summary. -/
def sectionFindings (titles : List Text) : Findings :=
  Findings.require (!titles.isEmpty)
      (.warning "File SHOULD contain at least one H2 section (## Section Name)") ++
    Findings.all (recommendedSections.map fun entry =>
      Findings.require (titles.any (·.holds entry.1.toList))
        (.warning ("Recommended section \"## " ++ entry.2 ++ "\" not found")))

/-- Check a site summary. -/
def llmsTxt (content : Text) : Findings :=
  let lines := content.lines
  match firstFilled? 1 lines with
  | none => .error emptyMessage
  | some (number, line) =>
      headingFindings number line ++
        Findings.require (hasQuote lines)
          (.error
            "File MUST contain a blockquote description (> ...) immediately after the H1") ++
        sectionFindings (sectionTitles lines)

/-- Check a page summary, for which the quote is only recommended. -/
def llmTxt (content : Text) : Findings :=
  let lines := content.lines
  match firstFilled? 1 lines with
  | none => .error emptyMessage
  | some (number, line) =>
      Findings.require (line.begins "# ")
          (.errorAt number "File MUST begin with a Markdown H1 heading (# Page Title)") ++
        Findings.require (hasQuote lines) (.warning "File SHOULD contain a blockquote description")

end Check
end DiscoveryFiles
