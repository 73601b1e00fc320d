import DiscoveryFiles.FileTree.Path
import DiscoveryFiles.Text.Quoted
import DiscoveryFiles.Text.Utf8

/-!
# File trees

A file tree holds directories and files below one root.  Paths are followed name by name, where
two dots lead back to the directory above.  Some files can be seen but not opened.
-/

namespace DiscoveryFiles

/-- What a name in a directory stands for. -/
inductive Entry where
  /-- A file with its bytes. -/
  | file (bytes : List UInt8)
  /-- A directory with its entries. -/
  | directory (entries : List (Text × Entry))

/-- Why a path cannot be followed or a file cannot be opened. -/
inductive Obstacle where
  /-- There is nothing at the path. -/
  | missing
  /-- The file may not be opened. -/
  | denied
  /-- A name before the last is no directory. -/
  | notDirectory
  /-- There is a directory at the path. -/
  | isDirectory
  /-- A name is too long. -/
  | tooLong
  /-- The path holds a null character. -/
  | nullCharacter
  deriving DecidableEq, Repr

/-- The number and the wording of an obstacle, where it has them. -/
def Obstacle.reason : Obstacle → String
  | missing => "[Errno 2] No such file or directory"
  | denied => "[Errno 13] Permission denied"
  | notDirectory => "[Errno 20] Not a directory"
  | isDirectory => "[Errno 21] Is a directory"
  | tooLong => "[Errno 36] File name too long"
  | nullCharacter => "embedded null byte"

/-- The wording of an obstacle at a path. -/
def Obstacle.message (path : Path) : Obstacle → String
  | nullCharacter => nullCharacter.reason
  | obstacle => obstacle.reason ++ ": " ++ quoteWords path.words

/-- The greatest number of bytes of a name. -/
def nameLimit : Nat := 255

/-- The number of bytes that no path reaches. -/
def pathLimit : Nat := 4096

namespace Entry

/-- The entries of a directory; a file has none. -/
def entries : Entry → List (Text × Entry)
  | file _ => []
  | directory entries => entries

/-- What lies at a sequence of names below an entry. -/
def find? : Entry → List Text → Option Entry
  | entry, [] => some entry
  | entry, name :: names => (entry.entries.lookup name).bind fun entry => entry.find? names

/-- Set or remove what a name stands for. -/
def setIn (name : Text) (value : Option Entry) (entries : List (Text × Entry)) :
    List (Text × Entry) :=
  match value with
  | none => entries.filter (·.1 ≠ name)
  | some value =>
      if (entries.lookup name).isSome then
        entries.map fun entry => if entry.1 = name then (name, value) else entry
      else entries ++ [(name, value)]

/-- Set or remove what lies at a sequence of names below an entry, making the directories on the
way. -/
def set (value : Option Entry) : List Text → Entry → Entry
  | [], entry => value.getD entry
  | [name], entry => directory (setIn name value entry.entries)
  | name :: names, entry =>
      let inner := (entry.entries.lookup name).getD (directory [])
      directory (setIn name (some (set value names inner)) entry.entries)

end Entry

/-- A file tree as seen from a directory in it. -/
structure FileTree where
  /-- What lies at the root. -/
  top : Entry
  /-- The directory that paths without a root start from. -/
  working : Path
  /-- The places of the files that cannot be opened. -/
  locked : List (List Text)

namespace FileTree

/-- Follow names from a place, given as the names that lead to it. -/
def walk (top : Entry) : List Text → List Text → Except Obstacle (List Text)
  | place, [] => .ok place
  | place, name :: names =>
      match top.find? place with
      | some (.directory entries) =>
          if name = ['.', '.'] then walk top place.dropLast names
          else if nameLimit < (Utf8.encode name).length then .error .tooLong
          else if (entries.lookup name).isSome then walk top (place ++ [name]) names
          else .error .missing
      | some (.file _) => .error .notDirectory
      | none => .error .missing

/-- The place that a path leads to. -/
def place (tree : FileTree) (path : Path) : Except Obstacle (List Text) :=
  if path.names.any (·.contains '\x00') then .error .nullCharacter
  else if pathLimit ≤ (Utf8.encode path.text).length then .error .tooLong
  else walk tree.top [] (tree.working.within path).names

/-- What lies at a path. -/
def entry (tree : FileTree) (path : Path) : Except Obstacle Entry := do
  let place ← tree.place path
  match tree.top.find? place with
  | some entry => return entry
  | none => throw .missing

/-- Whether what lies at a path meets a condition.  Only a name that is too long is an error. -/
def test (tree : FileTree) (path : Path) (condition : Entry → Bool) : Except Obstacle Bool :=
  match tree.entry path with
  | .ok entry => .ok (condition entry)
  | .error .tooLong => .error .tooLong
  | .error _ => .ok false

/-- Whether there is a file at a path. -/
def isFile (tree : FileTree) (path : Path) : Except Obstacle Bool :=
  tree.test path fun
    | .file _ => true
    | .directory _ => false

/-- Whether there is a directory at a path. -/
def isDirectory (tree : FileTree) (path : Path) : Except Obstacle Bool :=
  tree.test path fun
    | .file _ => false
    | .directory _ => true

/-- The bytes of the file at a path. -/
def read (tree : FileTree) (path : Path) : Except Obstacle (List UInt8) := do
  let place ← tree.place path
  if tree.locked.contains place then throw .denied
  match tree.top.find? place with
  | some (.file bytes) => return bytes
  | some (.directory _) => throw .isDirectory
  | none => throw .missing

/-- The names in the directory at a path, in the order of their code points. -/
def list (tree : FileTree) (path : Path) : List Text :=
  match tree.entry path with
  | .ok entry => (entry.entries.map Prod.fst).mergeSort Text.precedes
  | .error _ => []

/-- Put a file at a path, and the directories above it. -/
def write (tree : FileTree) (path : Path) (bytes : List UInt8) : FileTree :=
  let names := (tree.working.resolve path).names
  { tree with top := Entry.set (some (.file bytes)) names tree.top }

/-- Make a directory at a path, and the directories above it. -/
def makeDirectory (tree : FileTree) (path : Path) : FileTree :=
  let names := (tree.working.resolve path).names
  match tree.top.find? names with
  | some _ => tree
  | none => { tree with top := Entry.set (some (.directory [])) names tree.top }

/-- Remove what lies at a path, with all that it holds. -/
def remove (tree : FileTree) (path : Path) : FileTree :=
  let names := (tree.working.resolve path).names
  { tree with top := Entry.set none names tree.top }

/-- Make the file at a path impossible to open from now on. -/
def lock (tree : FileTree) (path : Path) : FileTree :=
  { tree with locked := (tree.working.resolve path).names :: tree.locked }

end FileTree
end DiscoveryFiles
