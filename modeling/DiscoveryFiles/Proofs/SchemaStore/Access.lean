import DiscoveryFiles.Proofs.Json.Depth
import DiscoveryFiles.Proofs.SchemaStore.Location
import DiscoveryFiles.Proofs.Text.Division

/-!
# Failures of the access to schemas

Failing to load the document of a schema, or to read its text, is foreseen and has a name.  Two
kinds of files get past it: a document that nests too deeply when it is loaded, and bytes that are
no text when the text is read.  Otherwise only a path that cannot be followed is in the way.
-/

namespace DiscoveryFiles
namespace SchemaStore

open Service

/-- An outcome is no failure but the one that the access to schemas is documented to have. -/
def FailsAsDocumented {α : Type} (outcome : Except Failure α) : Prop :=
  ∀ failure, outcome = .error failure → failure.title? = some "SchemaLoadError"

section FailsAsDocumented

variable {α : Type}

@[simp]
theorem failsAsDocumented_ok (value : α) :
    FailsAsDocumented (.ok value : Except Failure α) := by
  rintro failure ⟨⟩

@[simp]
theorem failsAsDocumented_error_iff {failure : Failure} :
    FailsAsDocumented (.error failure : Except Failure α) ↔
      failure.title? = some "SchemaLoadError" := by
  simp [FailsAsDocumented]

@[simp]
theorem failsAsDocumented_map_iff {β : Type} {outcome : Except Failure α} (f : α → β) :
    FailsAsDocumented (outcome.map f) ↔ FailsAsDocumented outcome := by
  cases outcome <;> simp [Except.map]

end FailsAsDocumented

section Access

variable {tree : FileTree} {path : Path} {type : String}

/-! ## Loading -/

end Access

end SchemaStore
end DiscoveryFiles
