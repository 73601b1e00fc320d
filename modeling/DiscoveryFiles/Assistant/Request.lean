import DiscoveryFiles.Service.Scan

/-!
# Requests of an assistant

An assistant can ask for checks and for the kind of a file.  The answers are data; a foreseen
failure to check what stands at a path is an answer too.
-/

namespace DiscoveryFiles
namespace Assistant

/-- What an assistant can ask for. -/
inductive Request where
  /-- Check the file at a path. -/
  | file (path : String) (type : Option String)
  /-- Check content under the name of its file. -/
  | content (file content : String) (type : Option String)
  /-- Check a site directory. -/
  | directory (path : String)
  /-- Run test vectors. -/
  | testVectors (path : String)
  /-- Tell the kind of a file by its name. -/
  | kind (file : String)

/-- A kind of file as data. -/
def kindMembers (kind : Kind) : List (CodePoints × Json) :=
  [(CodePoints.ofString "code", .words kind.code), (CodePoints.ofString "type", .words kind.tag),
    (CodePoints.ofString "tier", .words kind.tier.name)]

/-- The kind of a file, told by its name. -/
def describe (file : String) : Json :=
  let name := (CodePoints.ofString "filename", Json.words file)
  match Kind.detect? file with
  | none => .object [name, (CodePoints.ofString "type", .null)]
  | some kind => .object (name :: kindMembers kind)

/-- A foreseen failure as data. -/
def report (title : String) (failure : Failure) : Json :=
  .object [(CodePoints.ofString "error", .words title),
    (CodePoints.ofString "message", .words failure.message)]

/-- Data, or else the report of the foreseen failure to get it. -/
def reported (data : Service Json) : Service Json :=
  tryCatch data fun failure =>
    match failure.title? with
    | some title => return report title failure
    | none => throw failure

/-- The answer to a request.  No failure is foreseen where no path is given. -/
def answer (tree : FileTree) : Request → Service Json
  | .file path type => reported do return (← Service.validateFile tree path type).dump
  | .content file content type =>
      return (← Service.validateContent tree file content.toList type).dump
  | .directory path => reported do return (← Service.validateDirectory tree path).dump
  | .testVectors path => reported do return (← Service.validateVectors tree path).dump
  | .kind file => return describe file

end Assistant
end DiscoveryFiles
