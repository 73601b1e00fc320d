import DiscoveryFiles.Proofs.Report.Finding
import DiscoveryFiles.Report.CrossFile
import Mathlib.Data.List.Basic

/-!
# What is advised

The advice consists of at most four warnings.  Each of them depends on one or two kinds of files
being there.
-/

namespace DiscoveryFiles

namespace CrossFile

section Advice

variable {kinds : List Kind} {there : Kind → Prop} [DecidablePred there]
  (complete : ∀ kind, kind ∈ kinds ↔ there kind)

include complete

end Advice

end CrossFile
end DiscoveryFiles
