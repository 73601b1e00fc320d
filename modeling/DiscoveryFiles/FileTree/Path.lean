import DiscoveryFiles.Text.Basic

/-!
# Paths

A path is a sequence of names behind an optional root.  Empty names and single dots are left out
when a path is read; two dots are a name like any other.
-/

namespace DiscoveryFiles

/-- A path in a file tree. -/
structure Path where
  /-- The slashes that a path from the root starts with: none, one or two. -/
  root : Text
  /-- The names behind the root. -/
  names : List Text
  deriving DecidableEq

namespace Path

/-- The slashes at the start of a path.  Exactly two stay two, any other number becomes one. -/
def rootOf : Text → Text
  | ['/', '/'] => ['/', '/']
  | '/' :: '/' :: c :: _ => if c = '/' then ['/'] else ['/', '/']
  | '/' :: _ => ['/']
  | _ => []

/-- Whether a piece between slashes is a name. -/
def isName (piece : Text) : Bool :=
  piece ≠ [] && piece ≠ ['.']

/-- Read a path. -/
def ofText (text : Text) : Path :=
  ⟨rootOf text, (Text.cut '/' text).filter isName⟩

/-- Read a path. -/
def ofString (words : String) : Path :=
  ofText words.toList

/-- Write a path; the path without root and names is a dot. -/
def text (path : Path) : Text :=
  if path.root = [] ∧ path.names = [] then ['.']
  else path.root ++ Text.join ['/'] path.names

/-- Write a path. -/
def words (path : Path) : String :=
  String.ofList path.text

/-- The last name of a path; empty if there is none. -/
def lastName (path : Path) : Text :=
  path.names.getLastD []

/-- The path of an entry of a directory. -/
def child (path : Path) (name : Text) : Path :=
  { path with names := path.names ++ [name] }

/-- A path as seen from a directory: a path from the root stays as it is. -/
def within (directory path : Path) : Path :=
  if path.root = [] then { directory with names := directory.names ++ path.names } else path

/-- Take two dots as a step back. -/
def stepBack (names : List Text) : List Text :=
  names.foldl (fun done name => if name = ['.', '.'] then done.dropLast else done ++ [name]) []

/-- A path from the root without dots, as seen from a directory. -/
def resolve (directory path : Path) : Path :=
  ⟨['/'], stepBack (directory.within path).names⟩

end Path
end DiscoveryFiles
