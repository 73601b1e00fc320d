import DiscoveryFiles.Check.Structured
import DiscoveryFiles.Proofs.Service.Answer
import DiscoveryFiles.Proofs.Text.Utf8

/-!
# Schema files

What a store finds in front of a schema file: the document that its text is read as, or nothing
where there is no file.
-/

namespace DiscoveryFiles

namespace FileTree

theorem isFile_of_read {tree : FileTree} {path : Path} {bytes : List UInt8}
    (read : tree.read path = .ok bytes) : tree.isFile path = .ok true := by
  simp only [FileTree.read, bind, Except.bind] at read
  split at read
  · cases read
  next place place_eq =>
    split at read
    · cases read
    · split at read
      next entry_eq =>
        simp [isFile, test, entry, place_eq, entry_eq, bind, Except.bind, pure, Except.pure]
      · cases read
      · cases read

/-- A file in the root directory is read under its name. -/
theorem read_child_of_lookup {entries : List (Text × Entry)} {name : Text} {bytes : List UInt8}
    (clean : '\x00' ∉ name) (short : (Utf8.encode name).length ≤ nameLimit)
    (onward : name ≠ ['.', '.']) (found : entries.lookup name = some (.file bytes)) :
    (⟨.directory entries, ⟨['/'], []⟩, []⟩ : FileTree).read (Path.child ⟨['/'], []⟩ name) =
      .ok bytes := by
  have within_limit : (Utf8.encode (Path.child ⟨['/'], []⟩ name).text).length < pathLimit := by
    have slash : Utf8.encode (Path.child ⟨['/'], []⟩ name).text = 47 :: Utf8.encode name := by
      simp [Path.text, Path.child, Text.join, Utf8.encode, String.utf8EncodeChar]
    rw [slash, List.length_cons]
    exact Nat.lt_of_le_of_lt (Nat.succ_le_succ short) (by decide)
  have reaches : walk (.directory entries) [] [name] = .ok [name] := by
    simp [walk, Entry.find?, onward, Nat.not_lt.mpr short, found]
  have place_eq : (⟨.directory entries, ⟨['/'], []⟩, []⟩ : FileTree).place
      (Path.child ⟨['/'], []⟩ name) = .ok [name] := by
    rw [place, if_neg (by simpa [Path.child] using clean), if_neg (Nat.not_le.mpr within_limit)]
    exact reaches
  simp [read, place_eq, Entry.find?, Entry.entries, found, bind, Except.bind, pure, Except.pure]

/-- There is no file in an empty directory. -/
theorem isFile_ne_ok_true_of_empty {tree : FileTree} (empty : tree.top = .directory [])
    (path : Path) : tree.isFile path ≠ .ok true := by
  have entry_empty : ∀ found, tree.entry path = .ok found → found = .directory [] := by
    intro found entry_eq
    simp only [entry, bind, Except.bind] at entry_eq
    split at entry_eq
    · cases entry_eq
    next place _ =>
      cases place with
      | nil => simp_all [Entry.find?, pure, Except.pure]
      | cons name names =>
          simp [empty, Entry.find?, Entry.entries, throw, throwThe, MonadExceptOf.throw] at entry_eq
  rw [isFile, test]
  split
  next found entry_eq => simp [entry_empty found entry_eq]
  · simp
  · simp

end FileTree

namespace SchemaStore

open Check

/-- The schema file for a kind of data has a path. -/
theorem path?_kind (store : SchemaStore) (kind : DataKind) :
    store.path? kind.kind.tag = .ok (store.directory.child (schemaName kind.kind.tag)) := by
  have single : (Path.ofText (schemaName kind.kind.tag)).lastName = schemaName kind.kind.tag := by
    cases kind <;> cbv
  rw [path?]
  simp only [single, if_true]

theorem readText_of_read {tree : FileTree} {path : Path} {text : Text}
    (read : tree.read path = .ok (Utf8.encode text)) (unbroken : '\r' ∉ text) :
    readText tree path = .ok text := by
  simp [readText, read, Utf8.decode_encode, Text.unifyBreaks_eq_self unbroken]

/-- A file gives the document that its text is read as. -/
theorem fetch_of_read {tree : FileTree} {path : Path} {text : Text}
    {members : List (CodePoints × Json)} (read : tree.read path = .ok (Utf8.encode text))
    (unbroken : '\r' ∉ text) (parsed : Json.parse text = .ok (.object members)) :
    fetch tree path = .ok (some (.object members)) := by
  simp [fetch, FileTree.isFile_of_read read, readDocument, readText_of_read read unbroken, parsed,
    Except.map]

/-- A file whose text is read as another value is refused. -/
theorem fetch_of_read_other {tree : FileTree} {path : Path} {text : Text} {value : Json}
    (read : tree.read path = .ok (Utf8.encode text)) (unbroken : '\r' ∉ text)
    (parsed : Json.parse text = .ok value) (other : ∀ members, value ≠ .object members) :
    fetch tree path = .error (.schema .notObject) := by
  simp only [fetch, FileTree.isFile_of_read read, readDocument, readText_of_read read unbroken,
    parsed]
  cases value with
  | object members => exact absurd rfl (other members)
  | _ => rfl

/-- Without a file there is no document, or else the path cannot be looked at. -/
theorem fetch_of_no_file {tree : FileTree} {path : Path} (absent : tree.isFile path ≠ .ok true) :
    fetch tree path = .ok none ∨ fetch tree path = .error .nameTooLong := by
  rw [fetch]
  split
  · exact .inr rfl
  · exact .inl rfl
  next present => exact absurd present absent

/-! ## A schema at the root -/

/-- The place of the schema for policies at the root of the files. -/
def schemaPath : Path :=
  Path.child ⟨['/'], []⟩ (schemaName DataKind.policy.kind.tag)

/-- Files with nothing but a schema for policies. -/
def schemaTree (schema : String) : FileTree :=
  ⟨.directory [(schemaName DataKind.policy.kind.tag, .file (Utf8.encode schema.toList))],
    ⟨['/'], []⟩, []⟩

theorem read_schemaTree (schema : String) :
    (schemaTree schema).read schemaPath = .ok (Utf8.encode schema.toList) :=
  FileTree.read_child_of_lookup (by decide) (by decide) (by decide) (by simp)

/-- Writing the schema file replaces the schema. -/
theorem write_schemaTree (old new : String) :
    (schemaTree old).write schemaPath (Utf8.encode new.toList) = schemaTree new := rfl

/-- A new store looks for the schema at the root. -/
theorem loaded_schemaTree (schema : String) :
    loaded (schemaTree schema) ⟨⟨['/'], []⟩, []⟩ DataKind.policy.kind.tag =
      fetch (schemaTree schema) schemaPath := by
  rw [loaded, path?_kind]
  rfl

end SchemaStore
end DiscoveryFiles
