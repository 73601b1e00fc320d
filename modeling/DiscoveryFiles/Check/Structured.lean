import DiscoveryFiles.Kind.Basic
import DiscoveryFiles.Report.Finding
import DiscoveryFiles.Schema.Evaluation
import DiscoveryFiles.Service.Basic

/-!
# Files of structured data

A file of data holds one JSON object.  It is checked against its schema, as far as there is one
that can be evaluated, and for its required members in any case.
-/

namespace DiscoveryFiles
namespace Check

/-- A kind of file that holds data. -/
inductive DataKind where
  /-- The interaction policy. -/
  | policy
  /-- The identity of the organisation. -/
  | identity
  deriving DecidableEq, Repr

/-- The kind of discovery file. -/
def DataKind.kind : DataKind → Kind
  | policy => .aiJson
  | identity => .identityJson

/-- The members that a file must have, whether there is a schema or not. -/
def requiredMembers : DataKind → List String
  | .policy => ["permissions", "restrictions", "name", "url"]
  | .identity => ["name", "url", "type", "description"]

/-- The findings for the required members; null is a value like any other. -/
def memberFindings (kind : DataKind) (members : List (CodePoints × Json)) : Findings :=
  Findings.all ((requiredMembers kind).map fun name =>
    Findings.require (Json.member? (CodePoints.ofString name) members).isSome
      (.error ("Property \"" ++ name ++ "\" is REQUIRED")))

/-- Whether a value is the array without items. -/
def isEmptyArray : Option Json → Bool
  | some (.array []) => true
  | _ => false

/-- The findings that do not depend on a schema. -/
def structuralFindings (kind : DataKind) (members : List (CodePoints × Json)) : Findings :=
  memberFindings kind members ++
    match kind with
    | .policy =>
        Findings.require
          (!isEmptyArray (Json.member? (CodePoints.ofString "permissions") members))
          (.error "Property \"permissions\" MUST NOT be empty")
    | .identity => .none

/-- A violation of a schema as a finding. -/
def schemaFinding (path message : String) : Findings :=
  .error ("Schema: " ++ path ++ " — " ++ message)

/-- Violations of a schema as findings. -/
def violationFindings (violations : List Schema.Violation) : Findings :=
  Findings.all (violations.map fun violation =>
    schemaFinding (violation.path []) violation.message)

/-- What a document finds in data. -/
def evaluate (document data : Json) : Except Failure Findings :=
  match Schema.violations (some document) [] document data with
  | .ok violations => .ok (violationFindings violations)
  | .error fault => .error (.evaluation fault)

/-- The findings of the schema for a kind of file, or a warning that the schema is of no use. -/
def schemaFindings (tree : FileTree) (kind : DataKind) (data : Json) : Service Findings :=
  tryCatch
    (do
      match ← SchemaStore.load tree kind.kind.tag with
      | none => return .none
      | some document => evaluate document data)
    fun failure =>
      if failure.concernsSchema then
        return .warning ("Could not load JSON Schema: " ++ failure.message)
      else throw failure

/-- Check a file of data. -/
def structured (tree : FileTree) (kind : DataKind) (content : Text) : Service Findings := do
  match Json.parse content with
  | .error (.tooManyDigits count) => throw (.json (.tooManyDigits count))
  | .error error => return .error ("Invalid JSON: " ++ error.message)
  | .ok (.object members) =>
      let fromSchema ← schemaFindings tree kind (.object members)
      return fromSchema ++ structuralFindings kind members
  | .ok _ => return .error "Root value MUST be a JSON object"

end Check
end DiscoveryFiles
