import DiscoveryFiles.Check.Html
import DiscoveryFiles.Check.Keywords
import DiscoveryFiles.Check.Markdown
import DiscoveryFiles.Check.Questions
import DiscoveryFiles.Check.Structured
import DiscoveryFiles.Kind.Detection
import DiscoveryFiles.Report.Result

/-!
# Checking one file

The kind of a file is given or judged by its name, and decides how the content is checked.
-/

namespace DiscoveryFiles
namespace Service

/-- Check content as a kind of file. -/
def findingsFor (tree : FileTree) (content : Text) : Kind → Service Findings
  | .llmsTxt => return Check.llmsTxt content
  | .llmTxt => return Check.llmTxt content
  | .llmsHtml => return Check.llmsHtml content
  | .aiTxt => return Check.aiTxt content
  | .aiJson => Check.structured tree .policy content
  | .identityJson => Check.structured tree .identity content
  | .brandTxt => return Check.brandTxt content
  | .faqAiTxt => return Check.faqAiTxt content
  | .developerAiTxt => return Check.developerAiTxt content
  | .robotsAiTxt => return Check.robotsAiTxt content

/-- Check content under a tag, which may be that of no kind. -/
def findingsForTag (tree : FileTree) (content : Text) (tag : String) : Service Findings :=
  match Kind.ofTag? tag with
  | some kind => findingsFor tree content kind
  | none => return .error ("Unknown file type: " ++ tag)

/-- The tag that a file is checked under: the given one unless it is empty, or that of the detected
kind. -/
def tagFor? (file : String) (given : Option String) : Option String :=
  match given with
  | none | some "" => (Kind.detect? file).map Kind.tag
  | some tag => some tag

/-- The result for a file whose kind cannot be told. -/
def undetected (file : String) : Result :=
  ⟨file, unknownType, .error ("Cannot detect file type from filename \"" ++
    String.ofList (Path.ofString file).lastName ++ "\". Use --type flag.")⟩

/-- The note on a finished check. -/
def checkedMessage (result : Result) : String :=
  "Validated " ++ result.file ++ " as " ++ result.type ++ ": " ++
    toString result.findings.errors.length ++ " error(s), " ++
    toString result.findings.warnings.length ++ " warning(s)"

/-- Check content under the name of its file. -/
def validateContent (tree : FileTree) (file : String) (content : Text) (given : Option String) :
    Service Result := do
  match tagFor? file given with
  | none => return undetected file
  | some tag =>
      let findings ← findingsForTag tree content tag
      let result : Result := ⟨file, tag, findings⟩
      note .debug .validation (checkedMessage result)
      return result

/-- Check the file at a path. -/
def validateFile (tree : FileTree) (path : String) (given : Option String) : Service Result := do
  let place := Path.ofString path
  match tree.isFile place with
  | .error _ => throw .nameTooLong
  | .ok false => throw (.fileNotFound path)
  | .ok true =>
      match tree.read place with
      | .error obstacle => throw (.unreadable path (obstacle.message place))
      | .ok bytes => validateContent tree path (Utf8.decodeLossy bytes) given

end Service
end DiscoveryFiles
