import DiscoveryFiles.CommandLine.Options
import DiscoveryFiles.FileTree.Basic
import DiscoveryFiles.Failure
import DiscoveryFiles.Log
import DiscoveryFiles.Text.Lowercase
import DiscoveryFiles.Text.Uppercase

/-!
# Settings

Some settings come from variables of the environment, whose names are compared without regard to
case.  The options of the command line come before them.
-/

namespace DiscoveryFiles
namespace CommandLine

/-- What surrounds a run of the program. -/
structure Surroundings where
  /-- The files. -/
  tree : FileTree
  /-- The variables of the environment. -/
  assignments : List (String × String)
  /-- The directory of the schemas that come with the program. -/
  schemas : Path
  /-- Whether the reader of settings accepts a text as a port. -/
  acceptsPort : String → Bool

/-- The value of a variable; of several spellings of its name the last one counts. -/
def Surroundings.setting? (surroundings : Surroundings) (name : String) : Option String :=
  (surroundings.assignments.reverse.find? fun entry =>
    Text.lower entry.1.toList = Text.lower name.toList).map Prod.snd

/-- The settings of a run. -/
structure Settings where
  /-- The directory of the schemas. -/
  schemas : Path
  /-- The rank from which notes of the log are shown. -/
  threshold : Nat

/-- A path of the command line, resolved from the working directory. -/
def Surroundings.resolve (surroundings : Surroundings) (path : String) : Except Failure Path :=
  if path.toList.contains '\x00' then .error .nullCharacter
  else .ok (surroundings.tree.working.resolve (Path.ofString path))

/-- The settings for a run with the given options. -/
def Surroundings.settings (surroundings : Surroundings) (options : Options) :
    Except Failure Settings := do
  if !(surroundings.setting? "ADF_PORT").all surroundings.acceptsPort then
    throw .badSetting
  let schemas ←
    match options.schemaDirectory with
    | some path => surroundings.resolve path
    | none =>
        pure (((surroundings.setting? "ADF_SCHEMA_DIR").map Path.ofString).getD
          surroundings.schemas)
  let level :=
    if options.verbose then "DEBUG"
    else
      String.ofList
        (Text.upper ((surroundings.setting? "ADF_LOG_LEVEL").getD "WARNING").toList)
  match Level.threshold? level with
  | some threshold => return ⟨schemas, threshold⟩
  | none => throw (.unknownLevel level)

end CommandLine
end DiscoveryFiles
