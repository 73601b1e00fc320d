import DiscoveryFiles.FileTree.Basic

/-!
# What lies at a path

A path leads to a file, to a directory, to nothing, or it is too long to be followed.  The tests of
a file tree tell these apart, and the last is the only one that they report as an obstacle.
-/

namespace DiscoveryFiles
namespace FileTree

/-- There is a file at a path. -/
def HasFile (tree : FileTree) (path : Path) : Prop :=
  ∃ bytes, tree.entry path = .ok (.file bytes)

/-- There is a directory at a path. -/
def HasDirectory (tree : FileTree) (path : Path) : Prop :=
  ∃ entries, tree.entry path = .ok (.directory entries)

/-- A path cannot be followed because it or a name in it is too long. -/
def IsTooLong (tree : FileTree) (path : Path) : Prop :=
  tree.entry path = .error .tooLong

/-- A test for a file at a path does not rule one out. -/
def MayHaveFile (tree : FileTree) (path : Path) : Prop :=
  tree.HasFile path ∨ tree.IsTooLong path

section Tests

variable {tree : FileTree} {path : Path} {condition : Entry → Bool}

private theorem test_eq_error_iff {obstacle : Obstacle} :
    tree.test path condition = .error obstacle ↔ tree.IsTooLong path ∧ obstacle = .tooLong := by
  rw [test, IsTooLong]
  split
  next found => simp [found]
  next long => simp [long, eq_comm]
  next other differs found =>
    have short : other ≠ .tooLong := differs
    simp [found, short]

private theorem test_eq_true_iff :
    tree.test path condition = .ok true ↔
      ∃ entry, tree.entry path = .ok entry ∧ condition entry = true := by
  rw [test]
  split
  next found => simp [found]
  next long => simp [long]
  next found => simp [found]

private theorem test_eq_false_iff :
    tree.test path condition = .ok false ↔
      tree.test path condition ≠ .ok true ∧ ¬ tree.IsTooLong path := by
  cases tested : tree.test path condition with
  | error obstacle => simp [(test_eq_error_iff.mp tested).1]
  | ok met =>
      have short : ¬ tree.IsTooLong path := by
        intro long
        rw [test_eq_error_iff.mpr ⟨long, rfl⟩] at tested
        cases tested
      simp [short]

theorem isFile_eq_true_iff : tree.isFile path = .ok true ↔ tree.HasFile path := by
  rw [isFile, test_eq_true_iff, HasFile]
  constructor
  · rintro ⟨entry, found, isOne⟩
    cases entry with
    | file bytes => exact ⟨bytes, found⟩
    | directory entries => cases isOne
  · rintro ⟨bytes, found⟩
    exact ⟨.file bytes, found, rfl⟩

private theorem isFile_eq_false_iff :
    tree.isFile path = .ok false ↔ ¬ tree.HasFile path ∧ ¬ tree.IsTooLong path := by
  rw [← isFile_eq_true_iff]
  exact test_eq_false_iff

theorem not_mayHaveFile_iff : ¬ tree.MayHaveFile path ↔ tree.isFile path = .ok false := by
  rw [isFile_eq_false_iff, MayHaveFile, not_or]

theorem isFile_eq_error_iff {obstacle : Obstacle} :
    tree.isFile path = .error obstacle ↔ tree.IsTooLong path ∧ obstacle = .tooLong :=
  test_eq_error_iff

theorem isDirectory_eq_true_iff :
    tree.isDirectory path = .ok true ↔ tree.HasDirectory path := by
  rw [isDirectory, test_eq_true_iff, HasDirectory]
  constructor
  · rintro ⟨entry, found, isOne⟩
    cases entry with
    | file bytes => cases isOne
    | directory entries => exact ⟨entries, found⟩
  · rintro ⟨entries, found⟩
    exact ⟨.directory entries, found, rfl⟩

theorem isDirectory_eq_false_iff :
    tree.isDirectory path = .ok false ↔ ¬ tree.HasDirectory path ∧ ¬ tree.IsTooLong path := by
  rw [← isDirectory_eq_true_iff]
  exact test_eq_false_iff

theorem isDirectory_eq_error_iff {obstacle : Obstacle} :
    tree.isDirectory path = .error obstacle ↔ tree.IsTooLong path ∧ obstacle = .tooLong :=
  test_eq_error_iff

theorem HasDirectory.not_isTooLong (found : tree.HasDirectory path) : ¬ tree.IsTooLong path := by
  intro long
  obtain ⟨entries, found⟩ := found
  rw [IsTooLong, found] at long
  cases long

theorem HasFile.not_isTooLong (found : tree.HasFile path) : ¬ tree.IsTooLong path := by
  intro long
  obtain ⟨bytes, found⟩ := found
  rw [IsTooLong, found] at long
  cases long

end Tests

instance (tree : FileTree) (path : Path) : Decidable (tree.HasFile path) :=
  match tested : tree.isFile path with
  | .ok true => isTrue (isFile_eq_true_iff.mp tested)
  | .ok false => isFalse (isFile_eq_false_iff.mp tested).1
  | .error _ => isFalse fun found => by
      rw [isFile_eq_true_iff.mpr found] at tested
      cases tested

instance (tree : FileTree) (path : Path) : Decidable (tree.IsTooLong path) :=
  match tested : tree.isFile path with
  | .ok _ => isFalse fun long => by
      rw [isFile_eq_error_iff.mpr ⟨long, rfl⟩] at tested
      cases tested
  | .error _ => isTrue (isFile_eq_error_iff.mp tested).1

instance (tree : FileTree) (path : Path) : Decidable (tree.MayHaveFile path) :=
  inferInstanceAs (Decidable (tree.HasFile path ∨ tree.IsTooLong path))

end FileTree
end DiscoveryFiles
