import DiscoveryFiles.Failure
import DiscoveryFiles.Json.Parser
import DiscoveryFiles.Log

/-!
# The store of schemas

A schema is read from a file named for its file type, and kept from the first time that it is read
with success.  A failure is not kept, so that the file is looked at again.
-/

namespace DiscoveryFiles

/-- The schemas of a directory that have been read so far. -/
structure SchemaStore where
  /-- The directory. -/
  directory : Path
  /-- The documents, by the tag of their file type. -/
  kept : List (String × Json)

namespace SchemaStore

/-- The name of the schema file for a file type. -/
def schemaName (type : String) : Text :=
  type.toList ++ ".schema.json".toList

/-- The path of the schema file for a file type.  The name of the file must be a single name. -/
def path? (store : SchemaStore) (type : String) : Except Failure Path :=
  let name := schemaName type
  if (Path.ofText name).lastName = name then .ok (store.directory.child name)
  else .error (.schema (.invalidType type))

/-- The text of the file at a path, with line breaks unified. -/
def readText (tree : FileTree) (path : Path) : Except SchemaProblem Text :=
  match tree.read path with
  | .error obstacle => .error (.unreadable path obstacle)
  | .ok bytes =>
      match Utf8.decode bytes with
      | .error error => .error (.undecodable error)
      | .ok text => .ok text.unifyBreaks

/-- The document in the file at a path. -/
def readDocument (tree : FileTree) (path : Path) : Except Failure Json :=
  match readText tree path with
  | .error problem => .error (.schema problem)
  | .ok text =>
      match Json.parse text with
      | .error (.tooDeep _) => .error .schemaTooDeep
      | .error error => .error (.schema (.malformed error))
      | .ok (.object members) => .ok (.object members)
      | .ok _ => .error (.schema .notObject)

/-- The document in the file at a path, if there is a file. -/
def fetch (tree : FileTree) (path : Path) : Except Failure (Option Json) :=
  match tree.isFile path with
  | .error _ => .error .nameTooLong
  | .ok false => .ok none
  | .ok true => (readDocument tree path).map some

/-- The notes on an attempt to fetch a document. -/
def fetchNotes (path : Path) (outcome : Except Failure (Option Json)) : List LogEntry :=
  let attempt : LogEntry := ⟨.debug, .schemas, "Loading JSON Schema: " ++ path.words⟩
  match outcome with
  | .ok none => []
  | .error .nameTooLong => []
  | .error (.schema .notObject) => [attempt]
  | .error (.schema problem) =>
      [attempt, ⟨.warning, .schemas,
        "Could not load JSON Schema " ++ path.words ++ ": " ++ problem.message⟩]
  | _ => [attempt]

/-- Keep a document. -/
def keep (store : SchemaStore) (type : String) (document : Json) : SchemaStore :=
  { store with kept := store.kept ++ [(type, document)] }

/-- The text of the schema file for a file type. -/
def text (tree : FileTree) (store : SchemaStore) (type : String) : Except Failure Text := do
  let path ← store.path? type
  match readText tree path with
  | .ok text => return text
  | .error (.unreadable _ .nullCharacter) => throw .nullCharacter
  | .error (.unreadable path obstacle) => throw (.schema (.unavailable type path obstacle))
  | .error (.undecodable error) => throw (.undecodable error)
  | .error problem => throw (.schema problem)

end SchemaStore
end DiscoveryFiles
