import DiscoveryFiles.Proofs.SchemaStore.Fetch
import DiscoveryFiles.Proofs.Text.Division
import DiscoveryFiles.Service.Validation
import Mathlib.Data.List.Forall2

/-!
# Files and their texts

Checking a file that can be read is checking the text that its bytes are shown as.  Damaged bytes
cost no line feed, so the lines of the text are those of the bytes.
-/

namespace DiscoveryFiles
namespace Service

private theorem validateFile_eq_validateContent {tree : FileTree} {path : String}
    {bytes : List UInt8}
    (read : tree.read (Path.ofString path) = .ok bytes) (given : Option String) :
    validateFile tree path given = validateContent tree path (Utf8.decodeLossy bytes) given := by
  simp only [validateFile, FileTree.isFile_of_read read, read]

/-- The check of a file that can be read is the check of a text under the path of the file.  The
text is the one that the bytes are shown as, with its lines the ones that the bytes between line
feeds are shown as, and it is the written text if the bytes are those of one. -/
theorem validateFile_shows_bytes {tree : FileTree} {path : String} {bytes : List UInt8}
    (read : tree.read (Path.ofString path) = .ok bytes) :
    ∃ text : Text,
      (∀ given, validateFile tree path given = validateContent tree path text given) ∧
      (∀ other, Utf8.Shows bytes other ↔ other = text) ∧
      List.Forall₂ Utf8.Shows (bytes.splitOn 0x0A) text.lines ∧
      ∀ written, bytes = Utf8.encode written → text = written := by
  refine ⟨Utf8.decodeLossy bytes, validateFile_eq_validateContent read, fun other => ?_, ?_, ?_⟩
  · rw [Utf8.shows_iff, eq_comm]
  · rw [Utf8.lines_decodeLossy, List.forall₂_map_right_iff]
    exact List.forall₂_same.mpr fun segment _ => Utf8.shows_iff.mpr rfl
  · rintro written rfl
    exact Utf8.decodeLossy_encode written

/-- Two damaged runs, one in front of a line feed and one behind it. -/
def damagedLines : List UInt8 :=
  [0x61, 0xE2, 0x82, 0x0A, 0xFF, 0x62]

theorem validateFile_shows_damagedLines :
    let tree : FileTree := ⟨.directory [("llms.txt".toList, .file damagedLines)], ⟨['/'], []⟩, []⟩
    tree.read (Path.ofString "/llms.txt") = .ok damagedLines ∧
      (∀ given, validateFile tree "/llms.txt" given =
        validateContent tree "/llms.txt" ['a', '\uFFFD', '\n', '\uFFFD', 'b'] given) ∧
      List.Forall₂ Utf8.Shows [[0x61, 0xE2, 0x82], [0xFF, 0x62]]
        [['a', '\uFFFD'], ['\uFFFD', 'b']] := by
  intro tree
  have place_eq : Path.ofString "/llms.txt" = Path.child ⟨['/'], []⟩ "llms.txt".toList := by cbv
  have read : tree.read (Path.ofString "/llms.txt") = .ok damagedLines := by
    rw [place_eq]
    exact FileTree.read_child_of_lookup (by decide) (by decide) (by decide) (by simp)
  obtain ⟨text, same, shown, lines, -⟩ := validateFile_shows_bytes read
  obtain rfl := (shown _).mp (Utf8.shows_iff.mpr rfl)
  exact ⟨read, same, lines⟩

end Service
end DiscoveryFiles
