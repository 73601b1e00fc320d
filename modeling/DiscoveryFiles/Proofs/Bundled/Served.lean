import DiscoveryFiles.Bundled
import DiscoveryFiles.Proofs.Check.Structured
import DiscoveryFiles.Proofs.SchemaStore.Fetch

/-!
# Services with the bundled schemas

A service works with a bundled schema when its schema file holds the bundled text.  From then on
the document that loading gives is the one which the text is read as.
-/

namespace DiscoveryFiles

namespace Bundled

open Check Service

/-- The text of the bundled schema for a kind of file. -/
def schemaText : DataKind → Text
  | .policy => policySchema.toList
  | .identity => identitySchema.toList

/-- A service works with the bundled schema for a kind of file: the schema file holds it, and what
the store may have kept for the kind is read from it. -/
structure Serves (tree : FileTree) (state : ServiceState) (kind : DataKind) : Prop where
  /-- The schema file holds the bundled text. -/
  file : tree.read (state.store.directory.child (SchemaStore.schemaName kind.kind.tag)) =
    .ok (Utf8.encode (schemaText kind))
  /-- The store has kept nothing else. -/
  kept : ∀ document, state.store.kept.lookup kind.kind.tag = some document →
    Json.parse (schemaText kind) = .ok document

/-- Loading gives the document that the bundled text is read as. -/
theorem Serves.answer_load {tree : FileTree} {state : ServiceState} {kind : DataKind}
    {members : List (CodePoints × Json)} (serves : Serves tree state kind)
    (parsed : Json.parse (schemaText kind) = .ok (.object members))
    (unbroken : '\r' ∉ schemaText kind) :
    answer (SchemaStore.load tree kind.kind.tag) state = .ok (some (.object members)) := by
  rw [SchemaStore.answer_load, SchemaStore.loaded, SchemaStore.path?_kind]
  cases kept_eq : state.store.kept.lookup kind.kind.tag with
  | some document =>
      have same := serves.kept document kept_eq
      rw [parsed, Except.ok.injEq] at same
      simp [same]
  | none => exact SchemaStore.fetch_of_read serves.file unbroken parsed

/-- A file tree with the bundled schema files at its root. -/
def bundledTree : FileTree :=
  ⟨directory, ⟨['/'], []⟩, []⟩

/-- A new service works with the bundled schemas when it finds their files. -/
theorem serves_bundledTree (kind : DataKind) :
    Serves bundledTree (.fresh ⟨['/'], []⟩) kind := by
  constructor
  · cases kind with
    | policy => exact FileTree.read_child_of_lookup (by decide) (by decide) (by decide) rfl
    | identity => exact FileTree.read_child_of_lookup (by decide) (by decide) (by decide) rfl
  · intro document kept
    cases kept

end Bundled
end DiscoveryFiles
