import DiscoveryFiles.Report.Finding
import DiscoveryFiles.Text.Basic

/-!
# Empty files

A file that holds nothing but blank characters has one error, and nothing else is said about it.
-/

namespace DiscoveryFiles
namespace Check

/-- The message for a file without text. -/
def emptyMessage : String := "File is empty"

/-- Whether a text is blank. -/
def isBlank (text : Text) : Bool :=
  text.trim.isEmpty

end Check
end DiscoveryFiles
