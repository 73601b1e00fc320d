import DiscoveryFiles.FileTree.Basic
import DiscoveryFiles.Json.Error
import DiscoveryFiles.Schema.Fault

/-!
# Failures

What ends an operation before it has a result.  Some failures are foreseen and reported to the
user; the others are defects of the input that nothing is made of.
-/

namespace DiscoveryFiles

/-- Why the document of a schema cannot be had. -/
inductive SchemaProblem where
  /-- The tag of the file type is not part of a file name. -/
  | invalidType (type : String)
  /-- The file cannot be opened. -/
  | unreadable (path : Path) (obstacle : Obstacle)
  /-- The bytes are not text. -/
  | undecodable (error : Utf8.Error)
  /-- The text is not JSON. -/
  | malformed (error : Json.Error)
  /-- The document is not an object. -/
  | notObject
  /-- The text of a schema was asked for and the file cannot be opened. -/
  | unavailable (type : String) (path : Path) (obstacle : Obstacle)

/-- The wording of a problem with a schema. -/
def SchemaProblem.message : SchemaProblem → String
  | invalidType type => "Invalid file type: " ++ type
  | unreadable path obstacle => obstacle.message path
  | undecodable error => error.message
  | malformed error => error.message
  | notObject => "Schema root MUST be a JSON object"
  | unavailable type path obstacle =>
      "Schema not available for " ++ type ++ ": " ++ obstacle.message path

/-- Why an operation has no result. -/
inductive Failure where
  /-- There is no file at the path. -/
  | fileNotFound (path : String)
  /-- The file at the path cannot be opened. -/
  | unreadable (path reason : String)
  /-- There is no directory at the path. -/
  | directoryNotFound (path : String)
  /-- The document of a schema cannot be had. -/
  | schema (problem : SchemaProblem)
  /-- The document of a schema nests too deeply. -/
  | schemaTooDeep
  /-- A schema cannot be evaluated on the data. -/
  | evaluation (fault : Schema.Fault)
  /-- A JSON text cannot be read. -/
  | json (error : Json.Error)
  /-- The bytes of a file are not text. -/
  | undecodable (error : Utf8.Error)
  /-- A path holds a null character. -/
  | nullCharacter
  /-- A name in a path is too long. -/
  | nameTooLong
  /-- The threshold of the log is unknown. -/
  | unknownLevel (name : String)
  /-- A setting does not have the form that it needs. -/
  | badSetting
  /-- The line of an issue is not positive. -/
  | badLine

namespace Failure

/-- The wording of a failure. -/
def message : Failure → String
  | fileNotFound path => "File not found: " ++ path
  | unreadable path reason => "Could not read " ++ path ++ ": " ++ reason
  | directoryNotFound path => "Directory not found: " ++ path
  | schema problem => problem.message
  | schemaTooDeep => Json.depthMessage
  | evaluation fault => fault.message
  | json error => error.message
  | undecodable error => error.message
  | nullCharacter => Obstacle.nullCharacter.reason
  | nameTooLong => ""
  | unknownLevel name => "Unknown level: " ++ quoteWords name
  | badSetting => ""
  | badLine => ""

/-- The name under which a foreseen failure is reported; others have none. -/
def title? : Failure → Option String
  | fileNotFound _ => some "SourceFileNotFoundError"
  | unreadable _ _ => some "SourceReadError"
  | directoryNotFound _ => some "DirectoryNotFoundError"
  | schema _ => some "SchemaLoadError"
  | evaluation (.badPattern _ _) => some "InvalidSchemaError"
  | _ => none

/-- Whether a failure lies in a schema, so that a file can be checked without it. -/
def concernsSchema : Failure → Bool
  | schema _ => true
  | schemaTooDeep => true
  | evaluation .countTooLarge | evaluation (.countTooLong _) => false
  | evaluation .opposedAlphabets | evaluation .keyNotText => false
  | evaluation _ => true
  | _ => false

end Failure
end DiscoveryFiles
