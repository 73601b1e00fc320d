import DiscoveryFiles.CommandLine.Run

/-!
# The places that a run looks at

A run depends on few files: the one to check, or those of a directory that may count, and the
schemas.  Whoever knows what lies at these places knows all that the run needs.
-/

namespace DiscoveryFiles
namespace CommandLine

/-- A place that a run looks at. -/
structure Site where
  /-- Its path. -/
  path : Path
  /-- Whether all files directly in it count. -/
  whole : Bool
  deriving DecidableEq

/-- The places of the schema files in a directory. -/
def schemaSites (directory : Path) : List Site :=
  Kind.all.map fun kind => ⟨directory.child (SchemaStore.schemaName kind.tag), false⟩

/-- The places of a target. -/
def Target.sites (surroundings : Surroundings) (target : Target) : Except Failure (List Site) :=
  match target with
  | .file path => return [⟨← surroundings.resolve path, false⟩]
  | .directory path => do
      let directory ← surroundings.resolve path
      return ⟨directory, false⟩ ::
        Kind.all.map fun kind => ⟨directory.child kind.fileName.toList, false⟩
  | .testVectors path => do
      let directory ← surroundings.resolve path
      return [⟨directory, false⟩, ⟨directory.child "valid".toList, true⟩,
        ⟨directory.child "invalid".toList, true⟩]

/-- The places that a run with options looks at. -/
def Options.sites (surroundings : Surroundings) (options : Options) :
    Except Failure (List Site) := do
  match options.target? with
  | .error _ | .ok none => return []
  | .ok (some target) =>
      let settings ← surroundings.settings options
      return schemaSites settings.schemas ++ (← target.sites surroundings)

/-- The places that a run with arguments looks at; a run that fails before looks nowhere. -/
def sites (surroundings : Surroundings) (arguments : List String) : List Site :=
  match read arguments with
  | .options options => (options.sites surroundings).toOption.getD []
  | _ => []

end CommandLine
end DiscoveryFiles
