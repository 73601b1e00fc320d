import DiscoveryFiles.FileTree.Path
import DiscoveryFiles.Proofs.Text.Lines

/-!
# Paths written and read

A path that was read is read again from its text.  So the name of an entry that is added to a path
is the last name of the path that is read from the text.
-/

namespace DiscoveryFiles
namespace Path

/-- A path as reading gives it: at most two slashes in front, and names that can stand between
slashes. -/
structure IsRead (path : Path) : Prop where
  /-- The root is made of at most two slashes. -/
  root : path.root = [] ∨ path.root = ['/'] ∨ path.root = ['/', '/']
  /-- The names are names and hold no slash. -/
  names : ∀ name ∈ path.names, isName name = true ∧ '/' ∉ name

theorem isRead_ofText (text : Text) : (ofText text).IsRead := by
  refine ⟨?_, fun name member => ?_⟩
  · change rootOf text = [] ∨ rootOf text = ['/'] ∨ rootOf text = ['/', '/']
    rw [rootOf.eq_def]
    split
    · exact .inr (.inr rfl)
    · split
      · exact .inr (.inl rfl)
      · exact .inr (.inr rfl)
    · exact .inr (.inl rfl)
    · exact .inl rfl
  · obtain ⟨piece, named⟩ := List.mem_filter.mp member
    exact ⟨named, Text.separator_not_mem_of_mem_cut piece⟩

theorem isRead_ofString (words : String) : (ofString words).IsRead :=
  isRead_ofText words.toList

theorem IsRead.child {path : Path} {name : Text} (read : path.IsRead)
    (named : isName name = true) (single : '/' ∉ name) : (path.child name).IsRead := by
  refine ⟨read.root, fun other member => ?_⟩
  rcases List.mem_append.mp member with before | last
  · exact read.names other before
  · obtain rfl := List.mem_singleton.mp last
    exact ⟨named, single⟩

@[simp]
theorem lastName_child (path : Path) (name : Text) : (path.child name).lastName = name := by
  simp [lastName, child]

/-! ## Names -/

section Names

variable {names : List Text}

theorem filter_cut_join (good : ∀ name ∈ names, isName name = true ∧ '/' ∉ name) :
    (Text.cut '/' (Text.join ['/'] names)).filter isName = names := by
  by_cases none_there : names = []
  · subst none_there
    rfl
  · rw [Text.cut_join (fun name member => (good name member).2) none_there]
    exact List.filter_eq_self.mpr fun name member => (good name member).1

/-- A slash in front does not change the names. -/
theorem filter_cut_slash (text : Text) :
    (Text.cut '/' ('/' :: text)).filter isName = (Text.cut '/' text).filter isName := by
  rw [Text.cut_cons, if_pos rfl]
  rfl

/-- Joined names do not start with a slash. -/
theorem head?_join_ne (good : ∀ name ∈ names, isName name = true ∧ '/' ∉ name) :
    (Text.join ['/'] names).head? ≠ some '/' := by
  cases names with
  | nil => simp [Text.join]
  | cons name others =>
      obtain ⟨named, single⟩ := good name List.mem_cons_self
      obtain ⟨c, rest, rfl⟩ := List.exists_cons_of_ne_nil
        (show name ≠ [] by rintro rfl; simp [isName] at named)
      have other : c ≠ '/' := fun same => single (same ▸ List.mem_cons_self)
      cases others <;> simp [Text.join, other]

end Names

section Root

variable {text : Text} (unrooted : text.head? ≠ some '/')

include unrooted

private theorem rootOf_of_head? : rootOf text = [] := by
  cases text with
  | nil => rfl
  | cons c rest =>
      have other : c ≠ '/' := fun same => unrooted (congrArg some same)
      simp [rootOf, other]

private theorem rootOf_slash : rootOf ('/' :: text) = ['/'] := by
  cases text with
  | nil => rfl
  | cons c rest =>
      have other : c ≠ '/' := fun same => unrooted (congrArg some same)
      simp [rootOf, other]

private theorem rootOf_slashes : rootOf ('/' :: '/' :: text) = ['/', '/'] := by
  cases text with
  | nil => rfl
  | cons c rest =>
      have other : c ≠ '/' := fun same => unrooted (congrArg some same)
      simp [rootOf, other]

end Root

/-! ## Whole paths -/

private theorem ofText_text {path : Path} (read : path.IsRead) : ofText path.text = path := by
  obtain ⟨root, names⟩ := path
  obtain ⟨slashes, good⟩ := read
  simp only at slashes good
  have unrooted := head?_join_ne good
  have names_eq := filter_cut_join good
  rcases slashes with rfl | rfl | rfl
  · by_cases none_there : names = []
    · subst none_there
      rfl
    · simp [text, none_there, ofText, rootOf_of_head? unrooted, names_eq]
  · simp [text, ofText, rootOf_slash unrooted, filter_cut_slash, names_eq]
  · simp [text, ofText, rootOf_slashes unrooted, filter_cut_slash, names_eq]

theorem ofString_words {path : Path} (read : path.IsRead) : ofString path.words = path := by
  rw [ofString, words, String.toList_ofList, ofText_text read]

end Path
end DiscoveryFiles
