import DiscoveryFiles.Report.Result

/-!
# Test-vector reports

Test vectors are files with a known outcome: some should pass and some should fail.
-/

namespace DiscoveryFiles

/-- The result for a test vector. -/
structure Outcome where
  /-- The result. -/
  result : Result
  /-- Whether the file should pass. -/
  expected : Bool
  deriving DecidableEq, Repr

namespace Outcome

/-- Whether the result is not the expected one. -/
def unexpected (outcome : Outcome) : Bool :=
  outcome.result.valid != outcome.expected

/-- An outcome as data. -/
def dump (outcome : Outcome) : Json :=
  .object [
    (CodePoints.ofString "result", outcome.result.dump),
    (CodePoints.ofString "expected", .boolean outcome.expected),
    (CodePoints.ofString "unexpected", .boolean outcome.unexpected)]

/-- The text of an outcome, with a flag below it if it is not the expected one. -/
def render (flag : String) (outcome : Outcome) : String :=
  outcome.result.render ++ "\n" ++ (if outcome.unexpected then flag ++ "\n" else "") ++ "\n"

end Outcome

/-- The outcomes of all test vectors. -/
structure VectorReport where
  /-- The directory of the test vectors. -/
  path : String
  /-- The outcomes of the files that should pass. -/
  passing : List Outcome
  /-- The outcomes of the files that should fail. -/
  failing : List Outcome
  deriving DecidableEq, Repr

namespace VectorReport

/-- Whether all outcomes are the expected ones. -/
def allPassed (report : VectorReport) : Bool :=
  !(report.passing ++ report.failing).any Outcome.unexpected

/-- The text of the outcomes under a heading. -/
def renderSection (heading flag : String) (outcomes : List Outcome) : String :=
  heading ++ "\n\n" ++ String.join (outcomes.map (Outcome.render flag))

/-- The text of a report, with all outcomes. -/
def render (report : VectorReport) : String :=
  renderSection "=== Valid Test Vectors (should PASS) ===" "  ^ UNEXPECTED FAILURE"
      report.passing ++
    renderSection "=== Invalid Test Vectors (should FAIL) ==="
      "  ^ UNEXPECTED PASS — this file should have failed validation" report.failing

/-- A report as data. -/
def dump (report : VectorReport) : Json :=
  .object [
    (CodePoints.ofString "path", .words report.path),
    (CodePoints.ofString "valid_vectors", .array (report.passing.map Outcome.dump)),
    (CodePoints.ofString "invalid_vectors", .array (report.failing.map Outcome.dump)),
    (CodePoints.ofString "all_passed", .boolean report.allPassed)]

end VectorReport
end DiscoveryFiles
