import DiscoveryFiles.Bundled
import DiscoveryFiles.CommandLine.Places
import DiscoveryFiles.CommandLine.Port

/-!
# The program

The places that a run looks at are read from the disk, and the run is a function of what they
hold.
-/

namespace DiscoveryFiles
namespace Program

/-- Put a file of the disk into a tree, and lock it there if it cannot be opened. -/
def loadFile (tree : FileTree) (path : Path) : IO FileTree := do
  let place := (← IO.currentDir) / path.words
  if ← place.isDir then return tree.makeDirectory path
  else if ← place.pathExists then
    try
      let bytes ← IO.FS.readBinFile place
      return tree.write path bytes.toList
    catch _ => return (tree.write path []).lock path
  else return tree

/-- Put what lies at a place of the disk into a tree. -/
def loadSite (tree : FileTree) (site : CommandLine.Site) : IO FileTree := do
  let place := (← IO.currentDir) / site.path.words
  if site.whole && (← place.isDir) then
    let entries ← place.readDir
    entries.foldlM (fun tree entry => loadFile tree (site.path.child entry.fileName.toList))
      (tree.makeDirectory site.path)
  else loadFile tree site.path

/-- The variables of the environment that are settings. -/
def readVariables : IO (List (String × String)) :=
  ["ADF_SCHEMA_DIR", "ADF_LOG_LEVEL", "ADF_PORT"].filterMapM fun name => do
    return (← IO.getEnv name).map (name, ·)

/-- The path of the schemas that come with the program, beside the program. -/
def schemaDirectory : IO Path :=
  return (Path.ofString (← IO.appDir).toString).child "schemas".toList

/-- The tree that a run with arguments looks at. -/
def readTree (schemas : Path) (assignments : List (String × String)) (arguments : List String) :
    IO FileTree := do
  let working := Path.ofString (← IO.currentDir).toString
  let bare : FileTree := ⟨.directory [], working, []⟩
  let bundled : FileTree :=
    { bare with top := .set (some Bundled.directory) schemas.names bare.top }
  let empty := bundled.makeDirectory working
  let sites := CommandLine.sites ⟨empty, assignments, schemas, CommandLine.isPort⟩ arguments
  sites.foldlM loadSite empty

/-- Run the program with arguments and tell the status that it ends with. -/
def run (arguments : List String) : IO UInt32 := do
  let schemas ← schemaDirectory
  let assignments ← readVariables
  let tree ← readTree schemas assignments arguments
  let outcome := CommandLine.run ⟨tree, assignments, schemas, CommandLine.isPort⟩ arguments
  IO.print outcome.output
  IO.eprint outcome.errors
  match outcome.ending with
  | .exit status => return UInt32.ofNat status
  | .failed failure =>
      IO.eprintln failure.message
      return 1

end Program
end DiscoveryFiles

/-- Run the program with the arguments of the command line. -/
def main (arguments : List String) : IO UInt32 :=
  DiscoveryFiles.Program.run arguments
