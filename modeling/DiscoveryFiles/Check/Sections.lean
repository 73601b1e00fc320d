import DiscoveryFiles.Check.Empty
import DiscoveryFiles.Text.Lowercase

/-!
# Files with named sections

A section starts at a line with its name in square brackets and ends before the next line in
square brackets.  Sections of one name are read as one.
-/

namespace DiscoveryFiles
namespace Check

/-- Whether a trimmed line is in square brackets. -/
def isHeader (line : Text) : Bool :=
  line.begins "[" && line.ends "]"

/-- The header of a section. -/
def header (name : String) : Text :=
  '[' :: name.toList ++ [']']

/-- A line as it is compared with headers: trimmed and in lower case. -/
def normal (line : Text) : Text :=
  line.trim.lower

/-- Whether there is a section with a name. -/
def hasSection (name : String) (lines : List Text) : Bool :=
  lines.any fun line => normal line == header name

/-- The lines that belong to the sections with a name, given whether the first line follows the
header of one. -/
def sectionLinesFrom (name : String) : Bool → List Text → List Text
  | _, [] => []
  | inside, line :: lines =>
      if normal line = header name then sectionLinesFrom name true lines
      else if isHeader (normal line) then sectionLinesFrom name false lines
      else if inside then line :: sectionLinesFrom name true lines
      else sectionLinesFrom name false lines

/-- The lines that belong to the sections with a name. -/
def sectionLines (name : String) (lines : List Text) : List Text :=
  sectionLinesFrom name false lines

/-- The findings for a field of the identity section. -/
def fieldFindings (lines : List Text) (field : String) : Findings :=
  Findings.require (lines.any fun line => (normal line).begins field)
    (.error ("[identity] section MUST contain a \"" ++ field ++ "\" field"))

/-- The findings for the identity section. -/
def identityFindings (lines : List Text) : Findings :=
  if hasSection "identity" lines then
    let fields := sectionLines "identity" lines
    fieldFindings fields "name:" ++ fieldFindings fields "url:"
  else .error "File MUST contain an [identity] section with name and url fields"

/-- The findings for a section that lists rules. -/
def listFindings (lines : List Text) (name : String) : Findings :=
  if hasSection name lines then
    Findings.require ((sectionLines name lines).any (·.trim.begins "- "))
      (.error ("[" ++ name ++ "] section MUST contain at least one item"))
  else .error ("File MUST contain a [" ++ name ++ "] section")

/-- Check an interaction policy. -/
def aiTxt (content : Text) : Findings :=
  if isBlank content then .error emptyMessage
  else
    let lines := content.lines
    identityFindings lines ++ listFindings lines "permissions" ++
      listFindings lines "restrictions"

/-- A section about names, with the article of its name and the noun for its entries. -/
structure NameSection where
  /-- The name of the section. -/
  name : String
  /-- The article before the name. -/
  article : String
  /-- The noun for an entry. -/
  noun : String

/-- The sections about names. -/
def nameSections : List NameSection :=
  [⟨"official-names", "an", "name"⟩, ⟨"incorrect-names", "an", "entry"⟩,
    ⟨"naming-rules", "a", "rule"⟩]

/-- Whether a line is an entry: neither blank nor a comment. -/
def isEntry (line : Text) : Bool :=
  !isBlank line && !line.trim.begins "#"

/-- The findings for a section about names. -/
def nameFindings (lines : List Text) (wanted : NameSection) : Findings :=
  if hasSection wanted.name lines then
    Findings.require ((sectionLines wanted.name lines).any isEntry)
      (.error ("[" ++ wanted.name ++ "] section MUST contain at least one " ++ wanted.noun))
  else
    .error ("File MUST contain " ++ wanted.article ++ " [" ++ wanted.name ++ "] section")

/-- Check the names of an organisation. -/
def brandTxt (content : Text) : Findings :=
  if isBlank content then .error emptyMessage
  else Findings.all (nameSections.map (nameFindings content.lines))

end Check
end DiscoveryFiles
