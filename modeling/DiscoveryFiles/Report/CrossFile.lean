import DiscoveryFiles.Kind.Basic
import DiscoveryFiles.Report.Result

/-!
# Advice on several files

Some advice concerns which kinds of files are there, not what is in them.  All of it is given as
warnings.
-/

namespace DiscoveryFiles
namespace CrossFile

/-- The name that the advice is reported under. -/
def fileName : String := "(cross-file)"

/-- The tag that the advice is reported under. -/
def type : String := "cross-validation"

/-- The warning that a kind of file is absent. -/
def absence (types : List String) (kind : Kind) : Findings :=
  Findings.require (types.contains kind.tag)
    (.warning ("Essential tier: " ++ kind.fileName ++ " (" ++ kind.code ++ ") is missing"))

/-- A reminder for files of two kinds that are both there. -/
def reminder (types : List String) (first second : Kind) (subject : String) : Findings :=
  Findings.require (!(types.contains first.tag && types.contains second.tag))
    (.warning ("Both " ++ first.fileName ++ " and " ++ second.fileName ++ " present — ensure " ++
      subject ++ " consistent (manual check required)"))

/-- The advice on files of the given types. -/
def advise (types : List String) : Result :=
  ⟨fileName, type,
    Findings.all ((Kind.ofTier "essential").map (absence types)) ++
      reminder types .aiTxt .aiJson "permissions are" ++
      reminder types .llmsTxt .identityJson "organisation name is"⟩

end CrossFile
end DiscoveryFiles
