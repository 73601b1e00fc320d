import DiscoveryFiles.Report.Finding
import DiscoveryFiles.Text.Lowercase

/-!
# Summaries as web pages

A web page is searched for a few elements, without regard to the case of letters.  Besides its
capital, the letter i also stands for the dotted capital and the dotless small letter, and the
letter s for the long one.
-/

namespace DiscoveryFiles
namespace Check

/-- The characters outside ASCII that a small letter also stands for. -/
def caseVariants : Char → List Char
  | 'i' => [Char.ofNat 0x130, Char.ofNat 0x131]
  | 's' => [Char.ofNat 0x17F]
  | 'k' => [Char.ofNat 0x212A]
  | _ => []

/-- Whether a small letter or other character stands for a character of a text. -/
def standsFor (letter c : Char) : Bool :=
  c.toLower == letter || (caseVariants letter).contains c

/-- The text behind some words at its start, read without regard to case. -/
def behindWords? : List Char → Text → Option Text
  | [], text => some text
  | letter :: letters, c :: text =>
      if standsFor letter c then behindWords? letters text else none
  | _ :: _, [] => none

/-- The text behind some words at its start, read without regard to case. -/
def behind? (words : String) (text : Text) : Option Text :=
  behindWords? words.toList text

/-- The text up to and behind the first closing angle bracket, if there is one. -/
def tagEnd? (text : Text) : Option (Text × Text) :=
  match text.dropWhile (· ≠ '>') with
  | '>' :: rest => some (text.takeWhile (· ≠ '>'), rest)
  | _ => none

/-- The first opening tag of the page element, from its opening to its closing angle bracket. -/
def htmlTag? : Text → Option Text
  | [] => none
  | c :: text =>
      match (behind? "<html" (c :: text)).bind tagEnd? with
      | some (inner, _) => some ((c :: text).take ("<html".length + inner.length) ++ ['>'])
      | none => htmlTag? text

/-- Whether a text starts with a title element that is not empty. -/
def startsTitle (text : Text) : Bool :=
  match behind? "<title>" text with
  | none => false
  | some rest =>
      !(rest.takeWhile (· ≠ '<')).isEmpty && (behind? "</title>" (rest.dropWhile (· ≠ '<'))).isSome

/-- Whether a text starts with the tag of a first-level heading and a character of text. -/
def startsHeading (text : Text) : Bool :=
  match (behind? "<h1" text).bind tagEnd? with
  | some (_, c :: _) => c ≠ '<'
  | _ => false

/-- A single or a double quote. -/
def isQuote (c : Char) : Bool :=
  c = '"' || c = '\''

/-- The text behind a quote at its start. -/
def behindQuote? : Text → Option Text
  | [] => none
  | c :: text => if isQuote c then some text else none

/-- Whether a text starts with the attribute that names a description. -/
def startsDescription (text : Text) : Bool :=
  ((behind? "name=" text).bind behindQuote?).bind (behind? "description") |>.bind behindQuote?
    |>.isSome

/-- Whether a text starts with a tag of metadata that names a description. -/
def startsMeta (text : Text) : Bool :=
  match (behind? "<meta" text).bind tagEnd? with
  | some (inner, _) => inner.fromSomewhere startsDescription
  | none => false

/-- Check a site summary as a web page. -/
def llmsHtml (content : Text) : Findings :=
  Findings.require (content.trim.lower.begins "<!doctype html")
      (.error "File MUST begin with <!DOCTYPE html>") ++
    (match htmlTag? content with
      | none => .error "File MUST contain an <html> element"
      | some tag =>
          Findings.require (tag.holds "lang=".toList)
            (.warning "The <html> element SHOULD include a lang attribute")) ++
    Findings.require (content.fromSomewhere startsTitle)
      (.error "File MUST contain a non-empty <title> element") ++
    Findings.require (content.fromSomewhere startsHeading)
      (.error "File MUST contain an <h1> element with the organisation name") ++
    Findings.require (content.fromSomewhere startsMeta)
      (.warning "File SHOULD contain a <meta name=\"description\"> element")

end Check
end DiscoveryFiles
