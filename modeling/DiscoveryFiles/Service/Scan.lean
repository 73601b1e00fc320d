import DiscoveryFiles.Report.CrossFile
import DiscoveryFiles.Report.Directory
import DiscoveryFiles.Report.Vectors
import DiscoveryFiles.Service.Validation

/-!
# Checking directories

A site directory is scanned for files with canonical names; a directory of test vectors for all
files in its two parts.
-/

namespace DiscoveryFiles
namespace Service

/-- Refuse a path at which there is no directory. -/
def requireDirectory (tree : FileTree) (path : String) : Service Unit :=
  match tree.isDirectory (Path.ofString path) with
  | .error _ => throw .nameTooLong
  | .ok false => throw (.directoryNotFound path)
  | .ok true => return ()

/-- Whether there is a file at a path. -/
def hasFile (tree : FileTree) (path : Path) : Service Bool :=
  match tree.isFile path with
  | .error _ => throw .nameTooLong
  | .ok found => return found

/-- The results for the canonical files of the given kinds that a directory has. -/
def scanKinds (tree : FileTree) (directory : Path) : List Kind → Service (List Result)
  | [] => return []
  | kind :: kinds => do
      let path := directory.child kind.fileName.toList
      if ← hasFile tree path then
        let result ← validateFile tree path.words none
        return result :: (← scanKinds tree directory kinds)
      else scanKinds tree directory kinds

/-- Check all files of a site directory. -/
def validateDirectory (tree : FileTree) (path : String) : Service DirectoryReport := do
  requireDirectory tree path
  let directory := Path.ofString path
  let results ← scanKinds tree directory Kind.all
  let searched := Kind.all.map Kind.fileName
  if results.isEmpty then
    note .info .validation ("No AI Discovery Files found in " ++ directory.words)
    return ⟨path, searched, [], none⟩
  else return ⟨path, searched, results, some (CrossFile.advise (results.map Result.type))⟩

/-- Whether a file in a directory of test vectors is none of them: a hidden file or a readme. -/
def isIgnored (name : Text) : Bool :=
  name.begins "." || name.lower == "readme.md".toList

/-- The outcomes of the files with the given names. -/
def runVectors (tree : FileTree) (directory : Path) (expected : Bool) :
    List Text → Service (List Outcome)
  | [] => return []
  | name :: names => do
      let path := directory.child name
      if isIgnored name then runVectors tree directory expected names
      else if ← hasFile tree path then
        let outcome : Outcome := ⟨← validateFile tree path.words none, expected⟩
        if outcome.unexpected then
          note .info .validation ("Unexpected outcome for test vector " ++ path.words)
        return outcome :: (← runVectors tree directory expected names)
      else runVectors tree directory expected names

/-- The outcomes of one part of the test vectors; a part that does not exist is empty. -/
def runPart (tree : FileTree) (directory : Path) (expected : Bool) : Service (List Outcome) :=
  match tree.isDirectory directory with
  | .error _ => throw .nameTooLong
  | .ok false => return []
  | .ok true => runVectors tree directory expected (tree.list directory)

/-- Run the test vectors of a directory. -/
def validateVectors (tree : FileTree) (path : String) : Service VectorReport := do
  requireDirectory tree path
  let directory := Path.ofString path
  let passing ← runPart tree (directory.child "valid".toList) true
  let failing ← runPart tree (directory.child "invalid".toList) false
  return ⟨path, passing, failing⟩

end Service
end DiscoveryFiles
