import DiscoveryFiles.Check.Sections
import DiscoveryFiles.Proofs.Text.Lowercase

/-!
# Sections of a file

The lines of a file are a preamble and sections, each with its header and its other lines.  The
lines that are read under a name are those of the sections whose headers have the name.  The checks
see no more of a file than which sections it has and what is found in them.
-/

namespace DiscoveryFiles
namespace Check

open Text

/-! ## Headers -/

@[simp]
theorem normal_trim (line : Text) : normal line.trim = normal line := by
  rw [normal, trim_trim, normal]

private theorem isHeader_iff {line : Text} :
    isHeader line = true ↔ ['['] <+: line ∧ [']'] <:+ line := by
  rw [isHeader, Bool.and_eq_true, begins_iff, ends_iff]
  rfl

private theorem isHeader_header (name : String) : isHeader (header name) = true := by
  refine isHeader_iff.mpr ⟨⟨name.toList ++ [']'], ?_⟩, ⟨'[' :: name.toList, ?_⟩⟩ <;> simp [header]

/-- Lower-casing does not change which lines are headers. -/
theorem isHeader_lower (line : Text) : isHeader line.lower = isHeader line := by
  rw [Bool.eq_iff_iff, isHeader_iff, isHeader_iff, bracket_prefix_lower_iff (.inl rfl),
    bracket_suffix_lower_iff (.inr rfl)]

/-- A line without brackets around it is the header of no section. -/
theorem normal_ne_header {line : Text} (plain : isHeader line.trim = false) (name : String) :
    normal line ≠ header name := by
  intro named
  have bracketed := isHeader_header name
  rw [← named, normal, isHeader_lower, plain] at bracketed
  cases bracketed

/-! ## Changes of lines -/

/-- What is the same for a line and the changed line is seen on the same lines. -/
theorem any_map_of_same {change : Text → Text} {condition : Text → Bool}
    (same : ∀ line, condition (change line) = condition line) (lines : List Text) :
    (lines.map change).any condition = lines.any condition := by
  rw [List.any_map]
  exact congrArg lines.any (funext same)

section Change

variable {change : Text → Text} (kept : ∀ line, normal (change line) = normal line) (name : String)
  (lines : List Text)

include kept

theorem hasSection_map : hasSection name (lines.map change) = hasSection name lines :=
  any_map_of_same (fun line => by rw [kept]) lines

/-- Lines that are changed in a way that is not seen in their normal form fall into the same
sections. -/
theorem sectionLines_map :
    sectionLines name (lines.map change) = (sectionLines name lines).map change := by
  have from_either (inside : Bool) : sectionLinesFrom name inside (lines.map change) =
      (sectionLinesFrom name inside lines).map change := by
    induction lines generalizing inside with
    | nil => rfl
    | cons line lines induction =>
        simp only [List.map_cons, sectionLinesFrom, kept, induction]
        split
        · rfl
        split
        · rfl
        split <;> rfl
  exact from_either false

theorem any_sectionLines_map {condition : Text → Bool}
    (same : ∀ line, condition (change line) = condition line) :
    (sectionLines name (lines.map change)).any condition =
      (sectionLines name lines).any condition := by
  rw [sectionLines_map kept, any_map_of_same same]

end Change

/-! ## Outlines -/

/-- A section: its header and the lines up to the next header. -/
structure Block where
  /-- The line with the header. -/
  opening : Text
  /-- The other lines. -/
  body : List Text
  /-- The first line is a header. -/
  opens : isHeader opening.trim = true
  /-- No other line is a header. -/
  plain : ∀ line ∈ body, isHeader line.trim = false

namespace Block

/-- The lines of a section. -/
def lines (block : Block) : List Text :=
  block.opening :: block.body

/-- The lines that a section has under a name: those of its body, if it has the name. -/
def linesFor (name : String) (block : Block) : List Text :=
  if normal block.opening = header name then block.body else []

end Block

/-- Lines are made up of a preamble without headers and of sections. -/
structure IsOutline (lines preamble : List Text) (blocks : List Block) : Prop where
  /-- The preamble has no headers. -/
  plain : ∀ line ∈ preamble, isHeader line.trim = false
  /-- The sections follow the preamble. -/
  lines_eq : lines = preamble ++ blocks.flatMap Block.lines

/-- All lines have an outline. -/
theorem exists_outline (lines : List Text) :
    ∃ preamble blocks, IsOutline lines preamble blocks := by
  induction lines with
  | nil => exact ⟨[], [], by simp, rfl⟩
  | cons line lines induction =>
      obtain ⟨preamble, blocks, plain, lines_eq⟩ := induction
      cases opens : isHeader line.trim with
      | false =>
          refine ⟨line :: preamble, blocks, List.forall_mem_cons.mpr ⟨opens, plain⟩, ?_⟩
          rw [lines_eq, List.cons_append]
      | true =>
          -- The lines in front of the next header are the body of a section.
          refine ⟨[], ⟨line, preamble, opens, plain⟩ :: blocks, by simp, ?_⟩
          rw [lines_eq, List.flatMap_cons, Block.lines]
          rfl

/-! ## The lines of a section -/

variable {name : String} {inside : Bool} {preamble : List Text}

/-- Lines without headers belong to the section that they stand in. -/
theorem sectionLinesFrom_append (plain : ∀ line ∈ preamble, isHeader line.trim = false)
    (rest : List Text) :
    sectionLinesFrom name inside (preamble ++ rest) =
      (if inside then preamble else []) ++ sectionLinesFrom name inside rest := by
  induction preamble with
  | nil => cases inside <;> rfl
  | cons line lines induction =>
      obtain ⟨first, others⟩ := List.forall_mem_cons.mp plain
      have unbracketed : isHeader (normal line) = false := by rw [normal, isHeader_lower, first]
      rw [List.cons_append, sectionLinesFrom, if_neg (normal_ne_header first name), unbracketed]
      cases inside with
      | false => exact induction others
      | true => simpa using induction others

/-- Each header starts anew, so that it does not matter which section the lines before belong to. -/
theorem sectionLinesFrom_blocks (blocks : List Block) :
    sectionLinesFrom name inside (blocks.flatMap Block.lines) =
      blocks.flatMap (Block.linesFor name) := by
  induction blocks generalizing inside with
  | nil => rfl
  | cons block blocks induction =>
      rw [List.flatMap_cons, List.flatMap_cons, Block.lines, List.cons_append, sectionLinesFrom,
        Block.linesFor]
      have bracketed : isHeader (normal block.opening) = true := by
        rw [normal, isHeader_lower, block.opens]
      rw [if_pos bracketed]
      split
      · rw [sectionLinesFrom_append block.plain, induction, if_pos rfl]
      · rw [sectionLinesFrom_append block.plain, induction, if_neg Bool.false_ne_true]

/-- The lines under a name are those that the sections have under it, one after the other. -/
theorem sectionLines_of_isOutline {lines : List Text} {blocks : List Block}
    (outline : IsOutline lines preamble blocks) (name : String) :
    sectionLines name lines = blocks.flatMap (Block.linesFor name) := by
  rw [outline.lines_eq, sectionLines, sectionLinesFrom_append outline.plain,
    sectionLinesFrom_blocks]
  rfl

/-! ## What is seen of sections -/

/-- Two texts that the checks of sections do not tell apart. -/
structure AlikeSections (first second : Text) : Prop where
  /-- Both texts are blank, or none is. -/
  blank : isBlank first = isBlank second
  /-- They have sections of the same names. -/
  named (name : String) : hasSection name first.lines = hasSection name second.lines
  /-- Up to blank ends, the same can be found under each name. -/
  found (name : String) (condition : Text → Bool)
    (trimmed : ∀ line, condition line.trim = condition line) :
    (sectionLines name first.lines).any condition = (sectionLines name second.lines).any condition

namespace AlikeSections

variable {first second : Text}

theorem aiTxt_eq (alike : AlikeSections first second) : aiTxt first = aiTxt second := by
  have field (words : String) :=
    alike.found "identity" (fun line => (normal line).begins words) (by simp)
  have item (name : String) := alike.found name (·.trim.begins "- ") (by simp)
  simp only [aiTxt, identityFindings, fieldFindings, listFindings, alike.blank, alike.named, field,
    item]

theorem brandTxt_eq (alike : AlikeSections first second) : brandTxt first = brandTxt second := by
  have names : nameFindings first.lines = nameFindings second.lines := by
    funext wanted
    have entries := alike.found wanted.name isEntry (by simp [isEntry])
    simp only [nameFindings, alike.named, entries]
  simp only [brandTxt, alike.blank, names]

end AlikeSections

end Check
end DiscoveryFiles
