import DiscoveryFiles.Proofs.FileTree.Listing
import DiscoveryFiles.Proofs.FileTree.Path
import DiscoveryFiles.Proofs.SchemaStore.History

/-!
# Where schema files lie

A file type stands for a file right in the directory of the schemas, unless it has a slash in it.
Different file types stand for different files, so a document that is kept belongs to one of them.
-/

namespace DiscoveryFiles

namespace Path

/-- The path without its last name. -/
def parent (path : Path) : Path :=
  { path with names := path.names.dropLast }

@[simp]
theorem parent_child (path : Path) (name : Text) : (path.child name).parent = path := by
  simp [parent, child]

/-- The last name of a path that is read has no slash in it. -/
theorem slash_not_mem_lastName (text : Text) : '/' ∉ (ofText text).lastName := by
  intro member
  cases last_eq : (ofText text).names.getLast? with
  | none => simp [lastName, List.getLastD_eq_getLast?, last_eq] at member
  | some name =>
      have listed : name ∈ (ofText text).names := List.mem_of_getLast? last_eq
      refine ((isRead_ofText text).names name listed).2 ?_
      simpa [lastName, List.getLastD_eq_getLast?, last_eq] using member

/-- A name without a slash is read as a path with that name. -/
theorem lastName_ofText {name : Text} (named : isName name = true) (single : '/' ∉ name) :
    (ofText name).lastName = name := by
  have names_eq : (ofText name).names = [name] := by
    have one : Text.join ['/'] [name] = name := rfl
    rw [ofText, ← one]
    exact filter_cut_join (by simpa using ⟨named, single⟩)
  simp [lastName, names_eq]

end Path

namespace FileTree

/-- A name other than two dots leads from a place to an entry there. -/
theorem eq_concat_of_walk {top : Entry} {here there : List Text} {name : Text}
    (onward : name ≠ ['.', '.']) (step : walk top here [name] = .ok there) :
    there = here ++ [name] := by
  simp only [walk, onward, if_false] at step
  split at step
  · split at step
    · cases step
    · split at step
      · exact (Except.ok.inj step).symm
      · cases step
  · cases step
  · cases step

end FileTree

namespace SchemaStore

open Service

variable {store : SchemaStore} {type : String}

private theorem slash_mem_schemaName_iff : '/' ∈ schemaName type ↔ '/' ∈ type.toList := by
  simp [schemaName]

private theorem schemaName_ne {name : Text} (short : name.length < 12) :
    schemaName type ≠ name := by
  rintro rfl
  have suffix_length : ".schema.json".toList.length = 12 := by decide
  rw [schemaName, List.length_append, suffix_length] at short
  omega

theorem path?_of_slash (slash : '/' ∈ type.toList) :
    store.path? type = .error (.schema (.invalidType type)) := by
  have differs : (Path.ofText (schemaName type)).lastName ≠ schemaName type := by
    intro same
    exact Path.slash_not_mem_lastName _ (same ▸ slash_mem_schemaName_iff.mpr slash)
  simp [path?, differs]

theorem path?_of_single (single : '/' ∉ type.toList) :
    store.path? type = .ok (store.directory.child (schemaName type)) := by
  have named : Path.isName (schemaName type) = true := by
    simp [Path.isName, schemaName_ne]
  simp [path?, Path.lastName_ofText named (mt slash_mem_schemaName_iff.mp single)]

/-- What lies at the path of a schema file lies in the directory of the schemas. -/
theorem exists_place_directory {tree : FileTree} {there : List Text}
    (reached : tree.place (store.directory.child (schemaName type)) = .ok there) :
    ∃ here, tree.place store.directory = .ok here ∧ there = here ++ [schemaName type] := by
  obtain ⟨here, found, step⟩ := FileTree.place_of_place_child reached
  exact ⟨here, found, FileTree.eq_concat_of_walk (schemaName_ne (by decide)) step⟩

/-! ## Documents by path -/

/-- The document that a store has kept for the schema file at a path. -/
def keptAt (store : SchemaStore) (path : Path) : Option Json :=
  (store.kept.find? fun entry => (store.path? entry.1).toOption = some path).map Prod.snd

private theorem path?_toOption_eq_iff {path : Path} (path_eq : store.path? type = .ok path)
    {other : String} : (store.path? other).toOption = some path ↔ other = type := by
  constructor
  · intro found
    cases other_eq : store.path? other with
    | error failure => simp [other_eq, Except.toOption] at found
    | ok there =>
        obtain rfl : there = path := by simpa [other_eq, Except.toOption] using found
        exact path?_injective other_eq path_eq
  · rintro rfl
    rw [path_eq, Except.toOption]

/-- Looking for a document by the path of its file comes to looking for it by its file type. -/
theorem keptAt_of_path? {path : Path} (path_eq : store.path? type = .ok path) :
    store.keptAt path = store.kept.lookup type := by
  have found (entries : List (String × Json)) :
      (entries.find? fun entry => (store.path? entry.1).toOption = some path).map Prod.snd =
        entries.lookup type := by
    simp only [path?_toOption_eq_iff path_eq]
    induction entries with
    | nil => rfl
    | cons entry entries induction =>
        obtain ⟨other, document⟩ := entry
        by_cases same : other = type
        · simp [same]
        · have unequal : (type == other) = false := by simpa using Ne.symm same
          simpa [List.lookup_cons, same, unequal] using induction
  exact found store.kept

/-- A file type has no path exactly if it has a slash in it.  Otherwise its path is that of an entry
of the directory of the schemas, and what lies there lies in that directory; no other file type has
the path, the document that is kept for it is that of the file type, and loading the schema for
another file type leaves it as it is. -/
theorem path?_is_in_directory (tree : FileTree) (state : ServiceState) (type : String) :
    let store := state.store
    ((∃ failure, store.path? type = .error failure ∧ failure.title? = some "SchemaLoadError") ↔
        '/' ∈ type.toList) ∧
      ((∃ path, store.path? type = .ok path ∧ path.parent = store.directory ∧
          path.lastName = type.toList ++ ".schema.json".toList ∧
          (∀ there, tree.place path = .ok there →
            ∃ here, tree.place store.directory = .ok here ∧ there = here ++ [path.lastName]) ∧
          store.keptAt path = store.kept.lookup type ∧
          ∀ other ≠ type, store.path? other ≠ .ok path ∧
            (after (load tree other) state).store.keptAt path = store.keptAt path) ↔
        '/' ∉ type.toList) := by
  intro store
  refine ⟨⟨?_, fun slash => ⟨_, path?_of_slash slash, rfl⟩⟩, ⟨?_, fun single => ?_⟩⟩
  · rintro ⟨failure, refused, -⟩
    by_contra single
    rw [path?_of_single single] at refused
    cases refused
  · rintro ⟨path, given, -⟩ slash
    rw [path?_of_slash slash] at given
    cases given
  · have given : store.path? type = .ok (store.directory.child (schemaName type)) :=
      path?_of_single single
    refine ⟨_, given, Path.parent_child _ _, Path.lastName_child _ _, fun there reached => ?_,
      keptAt_of_path? given, fun other differs => ⟨fun same => ?_, ?_⟩⟩
    · rw [Path.lastName_child]
      exact exists_place_directory reached
    · exact differs (path?_injective same given)
    · have agrees : (after (load tree other) state).store.AgreesOn type store :=
        agreesOn_after_load (Ne.symm differs)
      have given_after : (after (load tree other) state).store.path? type =
          .ok (store.directory.child (schemaName type)) := by
        rw [← agrees.directory]
        exact path?_of_single single
      rw [keptAt_of_path? given_after, keptAt_of_path? given, agrees.kept]

end SchemaStore
end DiscoveryFiles
