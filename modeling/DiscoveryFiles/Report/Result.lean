import DiscoveryFiles.Json.Basic
import DiscoveryFiles.Report.Finding

/-!
# Results

The result for one file: what it was checked as and what was found.  A result passes if it has no
errors; warnings do not matter.
-/

namespace DiscoveryFiles

/-- What was found in a file. -/
structure Result where
  /-- The name or path of the file. -/
  file : String
  /-- The tag of the kind that it was checked as. -/
  type : String
  /-- What was found. -/
  findings : Findings
  deriving DecidableEq, Repr

/-- The tag of a file whose kind is unknown. -/
def unknownType : String := "unknown"

/-- The text of an issue behind a label. -/
def Issue.render (label : String) (issue : Issue) : String :=
  let place :=
    match issue.line with
    | none => ""
    | some line => " (line " ++ toString line ++ ")"
  "  " ++ label ++ " " ++ issue.message ++ place

/-- An issue as data. -/
def Issue.dump (issue : Issue) : Json :=
  let line :=
    match issue.line with
    | none => .null
    | some line => .integer line
  .object [
    (CodePoints.ofString "message", .words issue.message),
    (CodePoints.ofString "line", line)]

namespace Result

/-- Whether a result has no errors. -/
def valid (result : Result) : Bool :=
  result.findings.errors.isEmpty

/-- The lines of the text of a result. -/
def renderLines (result : Result) : List String :=
  let status := if result.valid then "PASS" else "FAIL"
  ("[" ++ status ++ "] " ++ result.file ++ " (" ++ result.type ++ ")") ::
    result.findings.errors.map (Issue.render "ERROR:") ++
    result.findings.warnings.map (Issue.render "WARN: ")

/-- The text of a result. -/
def render (result : Result) : String :=
  String.intercalate "\n" result.renderLines

/-- A result as data. -/
def dump (result : Result) : Json :=
  .object [
    (CodePoints.ofString "file", .words result.file),
    (CodePoints.ofString "type", .words result.type),
    (CodePoints.ofString "errors", .array (result.findings.errors.map Issue.dump)),
    (CodePoints.ofString "warnings", .array (result.findings.warnings.map Issue.dump)),
    (CodePoints.ofString "valid", .boolean result.valid)]

end Result
end DiscoveryFiles
