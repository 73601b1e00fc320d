import DiscoveryFiles.CommandLine.Settings
import DiscoveryFiles.CommandLine.Usage
import DiscoveryFiles.Json.Printer
import DiscoveryFiles.Service.Scan

/-!
# Running the program

A run checks one file, a directory, or test vectors, and writes a report.  It succeeds if the
report does.
-/

namespace DiscoveryFiles
namespace CommandLine

/-- How a run ends. -/
inductive Ending where
  /-- With a status. -/
  | exit (status : Nat)
  /-- With a failure that is not foreseen. -/
  | failed (failure : Failure)

/-- What a run writes, and how it ends. -/
structure Outcome where
  /-- How the run ends. -/
  ending : Ending
  /-- The text on the standard output. -/
  output : String
  /-- The text on the standard error output. -/
  errors : String

/-- The report of a run and whether it succeeds. -/
structure Report where
  /-- The text of the report. -/
  text : String
  /-- Whether the run succeeds. -/
  success : Bool

/-- Data as the text of a report. -/
def jsonText (data : Json) : String :=
  String.ofList data.pretty ++ "\n"

/-- The report on one file. -/
def fileReport (options : Options) (result : Result) : Report :=
  let text :=
    match options.format with
    | .json => jsonText result.dump
    | .text => if options.quiet && result.valid then "" else result.render ++ "\n"
  ⟨text, result.valid⟩

/-- The report on a directory. -/
def directoryReport (options : Options) (report : DirectoryReport) : Report :=
  let text :=
    match options.format with
    | .json => jsonText report.dump
    | .text => report.render options.quiet
  ⟨text, report.valid⟩

/-- The report on test vectors. -/
def vectorReport (options : Options) (report : VectorReport) : Report :=
  let text :=
    match options.format with
    | .json => jsonText report.dump
    | .text => report.render
  ⟨text, report.allPassed⟩

/-- What a run is to check. -/
inductive Target where
  /-- A file. -/
  | file (path : String)
  /-- A directory. -/
  | directory (path : String)
  /-- A directory of test vectors. -/
  | testVectors (path : String)
  deriving DecidableEq, Repr

/-- An option that was given with a value that is not empty. -/
def filled? : Option String → Option String
  | none | some "" => none
  | some value => some value

/-- What the options ask to check, if anything; asking for a file and a directory is a misuse. -/
def Options.target? (options : Options) : Except String (Option Target) :=
  match filled? options.file, filled? options.directory, filled? options.testVectors with
  | none, none, none => .ok none
  | some path, none, none => .ok (some (.file path))
  | none, some path, _ => .ok (some (.directory path))
  | none, none, some path => .ok (some (.testVectors path))
  | some _, _, _ => .error "a file argument cannot be combined with --dir or --test-vectors"

/-- Check a target and write the report on it. -/
def check (surroundings : Surroundings) (options : Options) : Target → Service Report
  | .file path => do
      let path ← surroundings.resolve path
      let result ← Service.validateFile surroundings.tree path.words options.fileType
      return fileReport options result
  | .directory path => do
      let path ← surroundings.resolve path
      let report ← Service.validateDirectory surroundings.tree path.words
      return directoryReport options report
  | .testVectors path => do
      let path ← surroundings.resolve path
      let report ← Service.validateVectors surroundings.tree path.words
      return vectorReport options report

/-- Check a target with given settings. -/
def runTarget (surroundings : Surroundings) (options : Options) (settings : Settings)
    (target : Target) : Outcome :=
  let (answer, state) :=
    ((check surroundings options target).run (ServiceState.fresh settings.schemas)).run
  let log := renderLog settings.threshold state.log
  match answer with
  | .ok report => ⟨.exit (if report.success then 0 else 1), report.text, log⟩
  | .error failure =>
      if failure.title?.isSome then ⟨.exit 1, "", log ++ failure.message ++ "\n"⟩
      else ⟨.failed failure, "", log⟩

/-- Run the program with options. -/
def runOptions (surroundings : Surroundings) (options : Options) : Outcome :=
  match options.target? with
  | .error message => ⟨.exit 2, "", misuseText message⟩
  | .ok none => ⟨.exit 0, helpText, ""⟩
  | .ok (some target) =>
      match surroundings.settings options with
      | .error failure => ⟨.failed failure, "", ""⟩
      | .ok settings => runTarget surroundings options settings target

/-- Run the program with arguments. -/
def run (surroundings : Surroundings) (arguments : List String) : Outcome :=
  match read arguments with
  | .misuse message => ⟨.exit 2, "", misuseText message⟩
  | .help => ⟨.exit 0, helpText, ""⟩
  | .version => ⟨.exit 0, versionText, ""⟩
  | .options options => runOptions surroundings options

end CommandLine
end DiscoveryFiles
