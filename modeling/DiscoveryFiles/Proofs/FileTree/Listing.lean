import DiscoveryFiles.Proofs.FileTree.Presence
import DiscoveryFiles.Proofs.Text.Lines
import DiscoveryFiles.Proofs.Text.Order

/-!
# The names in a directory

A directory is listed in the order of code points, and all that can be reached in it by one more
name is listed.
-/

namespace DiscoveryFiles

private theorem Text.prefix_join_concat (separator : Text) (pieces : List Text) (piece : Text) :
    join separator pieces <+: join separator (pieces ++ [piece]) := by
  induction pieces with
  | nil => exact List.nil_prefix
  | cons first others induction =>
      cases others with
      | nil => exact ⟨separator ++ piece, by simp [join]⟩
      | cons next others =>
          rw [List.cons_append, List.cons_append, join_cons_cons, join_cons_cons,
            List.prefix_append_right_inj]
          exact induction

/-- A longer path is longer as a text, except that no names at all are written as a dot. -/
theorem Path.length_encode_text_le (path : Path) (name : Text) :
    (Utf8.encode path.text).length ≤ max 1 (Utf8.encode (path.child name).text).length := by
  by_cases bare : path.root = [] ∧ path.names = []
  · rw [text, if_pos bare]
    exact Nat.le_max_left _ _
  · have named : ¬ (path.root = [] ∧ path.names ++ [name] = []) := by simp
    have front : path.text <+: (path.child name).text := by
      rw [text, if_neg bare, text, child, if_neg named, List.prefix_append_right_inj]
      exact Text.prefix_join_concat _ _ _
    obtain ⟨behind, whole⟩ := front
    rw [← whole, Utf8.encode, Utf8.encode, List.flatMap_append, List.length_append]
    omega

theorem Entry.find?_append (top : Entry) (before behind : List Text) :
    top.find? (before ++ behind) = (top.find? before).bind (·.find? behind) := by
  induction before generalizing top with
  | nil => rfl
  | cons name before induction =>
      rw [List.cons_append, find?, find?]
      cases top.entries.lookup name with
      | none => rfl
      | some inner => exact induction inner

/-- Above a directory there is a directory. -/
theorem Entry.find?_dropLast_ne_file {top : Entry} {place : List Text}
    {entries : List (Text × Entry)} (found : top.find? place = some (.directory entries))
    (bytes : List UInt8) : top.find? place.dropLast ≠ some (.file bytes) := by
  intro above
  by_cases first : place = []
  · subst first
    rw [List.dropLast_nil, found] at above
    cases above
  · rw [← List.dropLast_append_getLast first, find?_append, above] at found
    simp [find?, Entry.entries] at found

namespace FileTree

private theorem walk_append (top : Entry) (place before behind : List Text) :
    walk top place (before ++ behind) =
      (walk top place before).bind fun place => walk top place behind := by
  induction before generalizing place with
  | nil => rfl
  | cons name before induction =>
      rw [List.cons_append, walk, walk]
      split
      · split
        · exact induction _
        · split
          · rfl
          · split
            · exact induction _
            · rfl
      · rfl
      · rfl

section Child

variable {tree : FileTree} {path : Path} {name : Text}

/-- The way to an entry of a directory leads through the directory. -/
theorem place_of_place_child {there : List Text}
    (reached : tree.place (path.child name) = .ok there) :
    ∃ here, tree.place path = .ok here ∧ walk tree.top here [name] = .ok there := by
  have longer := path.length_encode_text_le name
  have within_child : (tree.working.within (path.child name)).names =
      (tree.working.within path).names ++ [name] := by
    rw [Path.within, Path.within, Path.child]
    split <;> simp
  rw [place] at reached ⊢
  split at reached
  · cases reached
  next clean =>
    split at reached
    · cases reached
    next short =>
      have path_clean : ¬ path.names.any (·.contains '\x00') = true := by
        intro unclean
        exact clean (by rw [Path.child, List.any_append, unclean, Bool.true_or])
      have path_short : ¬ pathLimit ≤ (Utf8.encode path.text).length := by
        rw [pathLimit] at short ⊢
        omega
      rw [within_child, walk_append] at reached
      rw [if_neg path_clean, if_neg path_short]
      cases walked : walk tree.top [] (tree.working.within path).names with
      | error obstacle => simp [walked, Except.bind] at reached
      | ok here => exact ⟨here, rfl, by simpa [walked, Except.bind] using reached⟩

/-- A file is reached from the directory above it by a name there. -/
theorem lookup_of_walk_file {top : Entry} {here there : List Text} {bytes : List UInt8}
    (step : walk top here [name] = .ok there) (found : top.find? there = some (.file bytes)) :
    ∃ entries, top.find? here = some (.directory entries) ∧
      (entries.lookup name).isSome = true := by
  rw [walk] at step
  split at step
  next entries directory_here =>
    refine ⟨entries, directory_here, ?_⟩
    split at step
    · -- Two dots lead to a directory.
      obtain rfl := Except.ok.inj step
      exact absurd found (Entry.find?_dropLast_ne_file directory_here bytes)
    · split at step
      · cases step
      · split at step
        next known => exact known
        · cases step
  · cases step
  · cases step

/-- A directory lists the files that can be reached in it. -/
theorem mem_list_of_hasFile (found : tree.HasFile (path.child name)) : name ∈ tree.list path := by
  obtain ⟨bytes, found⟩ := found
  rw [entry] at found
  cases reached : tree.place (path.child name) with
  | error obstacle => simp [reached, bind, Except.bind] at found
  | ok there =>
      have file_there : tree.top.find? there = some (.file bytes) := by
        simp only [reached, bind, Except.bind] at found
        split at found
        next entry found_entry => rw [found_entry, Except.ok.inj found]
        · cases found
      obtain ⟨here, reached_here, step⟩ := place_of_place_child reached
      obtain ⟨entries, directory_here, known⟩ := lookup_of_walk_file step file_there
      have listed : tree.list path = (entries.map Prod.fst).mergeSort Text.precedes := by
        simp [list, entry, reached_here, bind, Except.bind, directory_here, pure, Except.pure,
          Entry.entries]
      obtain ⟨⟨other, inner⟩, member, same⟩ := List.lookup_isSome_iff.mp known
      obtain rfl := beq_iff_eq.mp same
      rw [listed, List.mem_mergeSort]
      exact List.mem_map_of_mem member

end Child

/-- The names in a directory are all different, as they are in every file system. -/
def Distinct (tree : FileTree) (path : Path) : Prop :=
  ∀ entries, tree.entry path = .ok (.directory entries) → (entries.map Prod.fst).Nodup

/-- Only directories have names in them. -/
theorem list_eq_nil {tree : FileTree} {path : Path} (absent : ¬ tree.HasDirectory path) :
    tree.list path = [] := by
  rw [list]
  split
  next entry found =>
    cases entry with
    | file bytes => exact List.mergeSort_nil
    | directory entries => exact absurd ⟨entries, found⟩ absent
  · rfl

theorem pairwise_list (tree : FileTree) (path : Path) :
    (tree.list path).Pairwise fun name other => name.Before other ∨ name = other := by
  rw [list]
  split
  · exact Text.pairwise_mergeSort _
  · exact .nil

theorem pairwise_before_list {tree : FileTree} {path : Path} (distinct : tree.Distinct path) :
    (tree.list path).Pairwise Text.Before := by
  rw [list]
  split
  next entry found =>
    cases entry with
    | file bytes => exact Text.pairwise_before_mergeSort _ .nil
    | directory entries => exact Text.pairwise_before_mergeSort _ (distinct entries found)
  · exact .nil

end FileTree
end DiscoveryFiles
