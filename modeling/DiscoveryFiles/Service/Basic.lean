import DiscoveryFiles.SchemaStore

/-!
# The service

A service remembers the schemas that it has read and keeps a log.
-/

namespace DiscoveryFiles

/-- What a service remembers from one request to the next. -/
structure ServiceState where
  /-- The schemas. -/
  store : SchemaStore
  /-- The log, the earliest entry first. -/
  log : List LogEntry

/-- A request to a service. -/
abbrev Service := ExceptT Failure (StateM ServiceState)

/-- A service that has not been asked anything yet. -/
def ServiceState.fresh (directory : Path) : ServiceState :=
  ⟨⟨directory, []⟩, []⟩

/-- Add notes to the log. -/
def noteAll (entries : List LogEntry) : Service Unit :=
  modify fun state => { state with log := state.log ++ entries }

/-- Add a note to the log. -/
def note (level : Level) (source : LogSource) (message : String) : Service Unit :=
  noteAll [⟨level, source, message⟩]

/-- The schema for a file type, if there is one. -/
def SchemaStore.load (tree : FileTree) (type : String) : Service (Option Json) := do
  let store := (← get).store
  let path ← store.path? type
  match store.kept.lookup type with
  | some document => return some document
  | none =>
      let outcome := fetch tree path
      noteAll (fetchNotes path outcome)
      match ← outcome with
      | none => return none
      | some document =>
          modify fun state => { state with store := state.store.keep type document }
          return some document

end DiscoveryFiles
