import DiscoveryFiles.FileTree.Path
import DiscoveryFiles.Kind.Basic

/-!
# Detecting the kind of a file

A canonical file name stands for its kind.  Any other name is searched for canonical names, the
longest first, so that a name that holds several is taken for the most specific one.
-/

namespace DiscoveryFiles
namespace Kind

/-- The kinds by the length of their canonical file names, the longest first; among equals the
order of all kinds is kept. -/
def longestFirst : List Kind :=
  all.mergeSort fun a b => b.fileName.length ≤ a.fileName.length

/-- Whether a file name ends in a hyphen and the canonical name of a kind, or holds that name
anywhere. -/
def occursIn (kind : Kind) (base : Text) : Bool :=
  base.ends ("-" ++ kind.fileName) || base.holds kind.fileName.toList

/-- The kind that the last name of a path stands for. -/
def ofBaseName? (base : Text) : Option Kind :=
  match all.find? fun kind => kind.fileName.toList = base with
  | some kind => some kind
  | none => longestFirst.find? (·.occursIn base)

/-- The kind of the file at a path, judged by its name. -/
def detect? (path : String) : Option Kind :=
  ofBaseName? (Path.ofString path).lastName

end Kind
end DiscoveryFiles
