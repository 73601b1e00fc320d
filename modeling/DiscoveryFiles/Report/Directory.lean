import DiscoveryFiles.Report.Result

/-!
# Directory reports

The results for the files of a directory, with advice that looks at them together.
-/

namespace DiscoveryFiles

/-- The results of scanning a directory. -/
structure DirectoryReport where
  /-- The directory. -/
  directory : String
  /-- The file names that were looked for. -/
  searched : List String
  /-- The results, one for each file found. -/
  results : List Result
  /-- The advice on all files together, if any file was found. -/
  cross : Option Result
  deriving DecidableEq, Repr

/-- The text of a result and an empty line, unless it passes and only failures are asked for. -/
def Result.renderBlock (quiet : Bool) (result : Result) : String :=
  if quiet && result.valid then "" else result.render ++ "\n\n"

namespace DirectoryReport

/-- The number of results. -/
def total (report : DirectoryReport) : Nat :=
  report.results.length

/-- The number of results that pass. -/
def passed (report : DirectoryReport) : Nat :=
  report.results.countP Result.valid

/-- Whether all results pass. -/
def valid (report : DirectoryReport) : Bool :=
  report.results.all Result.valid

/-- The text of a report; if only failures are asked for, results that pass are left out. -/
def render (quiet : Bool) (report : DirectoryReport) : String :=
  if report.results.isEmpty then
    "No AI Discovery Files found in " ++ report.directory ++ "\nLooked for: " ++
      String.intercalate ", " report.searched ++ "\n"
  else
    String.join (report.results.map (Result.renderBlock quiet)) ++
      (report.cross.map (Result.renderBlock quiet)).getD "" ++
      "Results: " ++ toString report.passed ++ "/" ++ toString report.total ++ " files passed\n"

/-- A report as data. -/
def dump (report : DirectoryReport) : Json :=
  .object [
    (CodePoints.ofString "directory", .words report.directory),
    (CodePoints.ofString "searched", .array (report.searched.map Json.words)),
    (CodePoints.ofString "results", .array (report.results.map Result.dump)),
    (CodePoints.ofString "cross_result", (report.cross.map Result.dump).getD .null),
    (CodePoints.ofString "total", .integer report.total),
    (CodePoints.ofString "passed", .integer report.passed),
    (CodePoints.ofString "valid", .boolean report.valid)]

end DirectoryReport
end DiscoveryFiles
