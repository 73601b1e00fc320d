import DiscoveryFiles.Proofs.Text.Trim

/-!
# Lines

Cutting a text into lines and joining lines with line feeds undo each other.
-/

namespace DiscoveryFiles
namespace Text

theorem cut_cons (separator c : Char) (rest : Text) :
    cut separator (c :: rest) =
      if c = separator then [] :: cut separator rest
      else (cut separator rest).modifyHead (c :: ·) := by
  rw [cut]
  split
  · rfl
  · have pieces_ne : cut separator rest ≠ [] := by
      cases rest with
      | nil => simp [cut]
      | cons d rest =>
          rw [cut]
          split
          · simp
          · split <;> simp
    cases pieces_eq : cut separator rest with
    | nil => exact absurd pieces_eq pieces_ne
    | cons piece pieces => rfl

theorem cut_eq_splitOn (separator : Char) (text : Text) :
    cut separator text = text.splitOn separator := by
  induction text with
  | nil => rfl
  | cons c rest induction =>
      rw [cut_cons, induction, List.splitOn_eq_splitOnP, List.splitOn_eq_splitOnP,
        List.splitOnP_cons_eq_if_modifyHead]
      simp only [beq_iff_eq]

theorem join_cons_cons (separator piece next : Text) (pieces : List Text) :
    join separator (piece :: next :: pieces) =
      piece ++ separator ++ join separator (next :: pieces) := rfl

private theorem join_eq_intercalate (separator : Text) (pieces : List Text) :
    join separator pieces = separator.intercalate pieces := by
  induction pieces with
  | nil => rfl
  | cons piece pieces induction =>
      cases pieces with
      | nil => simp [join]
      | cons next pieces =>
          rw [join_cons_cons, induction, List.intercalate_cons_cons]

private theorem cut_ne_nil (separator : Char) (text : Text) : cut separator text ≠ [] := by
  rw [cut_eq_splitOn]
  exact List.splitOnP_ne_nil _ text

/-- Pieces without the separator are cut as they were joined. -/
theorem cut_join {separator : Char} {pieces : List Text}
    (single : ∀ piece ∈ pieces, separator ∉ piece) (some_piece : pieces ≠ []) :
    cut separator (join [separator] pieces) = pieces := by
  rw [cut_eq_splitOn, join_eq_intercalate]
  exact List.splitOn_intercalate separator single some_piece

/-- No piece holds the separator. -/
theorem separator_not_mem_of_mem_cut {separator : Char} {text piece : Text}
    (member : piece ∈ cut separator text) : separator ∉ piece := by
  induction text generalizing piece with
  | nil =>
      obtain rfl := List.mem_singleton.mp member
      exact List.not_mem_nil
  | cons c rest induction =>
      rw [cut_cons] at member
      split at member
      · rcases List.mem_cons.mp member with rfl | later
        · exact List.not_mem_nil
        · exact induction later
      next other =>
        obtain ⟨first, others, pieces_eq⟩ := List.exists_cons_of_ne_nil (cut_ne_nil separator rest)
        rw [pieces_eq, List.modifyHead_cons] at member
        rcases List.mem_cons.mp member with rfl | later
        · have inside : separator ∉ first := induction (pieces_eq ▸ List.mem_cons_self)
          simp [Ne.symm other, inside]
        · exact induction (pieces_eq ▸ List.mem_cons_of_mem first later)

theorem lines_cons (c : Char) (rest : Text) :
    lines (c :: rest) = if c = '\n' then [] :: lines rest else (lines rest).modifyHead (c :: ·) :=
  cut_cons '\n' c rest

theorem lines_ne_nil (text : Text) : text.lines ≠ [] :=
  cut_ne_nil '\n' text

/-- The lines of two texts with a line feed between them. -/
theorem lines_append_cons (first second : Text) :
    (first ++ '\n' :: second).lines = first.lines ++ second.lines := by
  simp only [lines, cut_eq_splitOn]
  exact List.splitOnP_append_cons first second (by simp)

theorem join_lines (text : Text) : join ['\n'] text.lines = text := by
  rw [lines, cut_eq_splitOn, join_eq_intercalate]
  exact List.intercalate_splitOn '\n'

private theorem lines_join {pieces : List Text} (single : ∀ piece ∈ pieces, '\n' ∉ piece)
    (some_piece : pieces ≠ []) : (join ['\n'] pieces).lines = pieces :=
  cut_join single some_piece

/-- What holds of line feeds holds of all characters of a text if it holds of those of its lines. -/
theorem forall_mem_iff_lines {property : Char → Prop} (feed : property '\n') {text : Text} :
    (∀ c ∈ text, property c) ↔ ∀ line ∈ text.lines, ∀ c ∈ line, property c := by
  induction text with
  | nil => simp [lines, cut]
  | cons c rest induction =>
      rw [List.forall_mem_cons, induction, lines_cons]
      split
      next here => simp [here, feed]
      · obtain ⟨line, others, lines_eq⟩ := List.exists_cons_of_ne_nil (lines_ne_nil rest)
        simp [lines_eq, and_assoc]

/-- No line holds a line feed. -/
theorem feed_not_mem_of_mem_lines {text line : Text} (member : line ∈ text.lines) :
    '\n' ∉ line :=
  separator_not_mem_of_mem_cut member

/-- The lines of a text, joined in any order, are the lines of the text that comes out. -/
theorem lines_join_of_perm {text : Text} {pieces : List Text} (reordered : pieces.Perm text.lines) :
    (join ['\n'] pieces).lines = pieces := by
  have some_piece : pieces ≠ [] := by
    rintro rfl
    exact lines_ne_nil text (List.nil_perm.mp reordered)
  exact lines_join (fun _ member => feed_not_mem_of_mem_lines (reordered.mem_iff.mp member))
    some_piece

/-! ## Carriage returns -/

/-- The text with a carriage return in front of each line feed. -/
def withReturns (text : Text) : Text :=
  text.flatMap fun c => if c = '\n' then ['\r', '\n'] else [c]

/-- Lines with a carriage return at the end of each but the last. -/
def returned : List Text → List Text
  | [] => []
  | [line] => [line]
  | line :: next :: others => (line ++ ['\r']) :: returned (next :: others)

theorem lines_withReturns (text : Text) : text.withReturns.lines = returned text.lines := by
  induction text with
  | nil => rfl
  | cons c rest induction =>
      obtain ⟨line, others, lines_eq⟩ := List.exists_cons_of_ne_nil (lines_ne_nil rest)
      rw [withReturns, List.flatMap_cons, ← withReturns, lines_cons, lines_eq]
      rw [lines_eq] at induction
      split
      next here => simp [lines_cons, induction, returned]
      next other =>
        rw [List.singleton_append, lines_cons, if_neg other, induction]
        cases others <;> rfl

theorem map_trim_returned (lines : List Text) : (returned lines).map trim = lines.map trim := by
  induction lines with
  | nil => rfl
  | cons line others induction =>
      cases others with
      | nil => rfl
      | cons next others =>
          rw [returned, List.map_cons, induction, trim_concat (by decide), ← List.map_cons]

end Text

namespace Check

/-- A text is blank if all its lines are. -/
theorem isBlank_eq_all_lines (text : Text) : isBlank text = text.lines.all isBlank := by
  rw [Bool.eq_iff_iff, isBlank_iff, List.all_eq_true]
  simp only [isBlank_iff]
  exact Text.forall_mem_iff_lines (by decide)

end Check
end DiscoveryFiles
