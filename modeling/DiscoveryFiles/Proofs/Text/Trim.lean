import DiscoveryFiles.Check.Empty
import Mathlib.Data.List.DropRight

/-!
# Blank ends

What is left of a text when its blank ends are cut off, and what such ends do to it.
-/

namespace DiscoveryFiles
namespace Text

/-- All characters of a text are blank. -/
def AllBlank (text : Text) : Prop :=
  ∀ c ∈ text, isBlank c.toNat = true

private theorem trimEnd_eq_rdropWhile (text : Text) :
    trimEnd text = text.rdropWhile fun c => isBlank c.toNat := by
  induction text with
  | nil => rfl
  | cons c rest induction =>
      rw [trimEnd, induction, List.rdropWhile, List.rdropWhile, List.reverse_cons,
        List.dropWhile_append]
      cases kept_eq : rest.reverse.dropWhile fun c => isBlank c.toNat with
      | nil => cases blank : isBlank c.toNat <;> simp [blank]
      | cons last kept => simp

private theorem trimStart_eq_nil_iff {text : Text} : trimStart text = [] ↔ AllBlank text :=
  List.dropWhile_eq_nil_iff

private theorem trimEnd_eq_nil_iff {text : Text} : trimEnd text = [] ↔ AllBlank text := by
  rw [trimEnd_eq_rdropWhile]
  exact List.rdropWhile_eq_nil_iff

/-- A text that does not start with a blank character has no leading ones. -/
theorem trimStart_cons {c : Char} (inked : isBlank c.toNat = false) (rest : Text) :
    trimStart (c :: rest) = c :: rest := by
  simp [trimStart, inked]

/-- Behind its leading blank characters a text is empty or starts with another character. -/
theorem trimStart_cases (text : Text) :
    trimStart text = [] ∨
      ∃ c rest, trimStart text = c :: rest ∧ isBlank c.toNat = false := by
  induction text with
  | nil => exact .inl rfl
  | cons c rest induction =>
      cases blank : isBlank c.toNat with
      | false => exact .inr ⟨c, rest, trimStart_cons blank rest, blank⟩
      | true =>
          have skipped : trimStart (c :: rest) = trimStart rest := by
            simp [trimStart, blank]
          rw [skipped]
          exact induction

private theorem trimEnd_cons {c : Char} (inked : isBlank c.toNat = false) (rest : Text) :
    trimEnd (c :: rest) = c :: trimEnd rest := by
  rw [trimEnd]
  cases trimEnd rest with
  | nil => simp [inked]
  | cons d kept => rfl

private theorem allBlank_takeWhile (text : Text) :
    AllBlank (text.takeWhile fun c => isBlank c.toNat) :=
  fun _ member => List.mem_takeWhile_imp (p := fun c : Char => isBlank c.toNat) member

/-- A text is its trimmed text between blank ends. -/
theorem exists_blank_ends (text : Text) :
    ∃ before after, AllBlank before ∧ AllBlank after ∧ before ++ trim text ++ after = text := by
  refine ⟨text.takeWhile fun c => isBlank c.toNat,
    (trimStart text).rtakeWhile fun c => isBlank c.toNat, ?_, ?_, ?_⟩
  · exact allBlank_takeWhile text
  · exact fun c member => allBlank_takeWhile _ c (List.mem_reverse.mp member)
  · rw [trim, trimEnd_eq_rdropWhile, List.append_assoc, List.rdropWhile_append_rtakeWhile]
    exact List.takeWhile_append_dropWhile

private theorem trim_eq_nil_iff {text : Text} : trim text = [] ↔ AllBlank text := by
  rw [trim, trimEnd_eq_nil_iff]
  constructor
  · intro blank
    rw [← trimStart_eq_nil_iff]
    -- The first character that is kept would not be blank.
    rcases trimStart_cases text with nothing | ⟨c, rest, kept, inked⟩
    · exact nothing
    · have first := blank c (kept ▸ List.mem_cons_self)
      rw [inked] at first
      cases first
  · intro blank
    rw [trimStart_eq_nil_iff.mpr blank]
    exact fun c member => absurd member List.not_mem_nil

@[simp]
theorem trim_trim (text : Text) : trim (trim text) = trim text := by
  simp only [trim]
  rcases trimStart_cases text with nothing | ⟨c, rest, kept, inked⟩
  · rw [nothing]
    rfl
  · rw [kept, trimEnd_cons inked, trimStart_cons inked, ← trimEnd_cons inked]
    simp only [trimEnd_eq_rdropWhile, List.rdropWhile_idempotent]

/-- A blank character at the end of a text is cut off. -/
theorem trim_concat {c : Char} (blank : isBlank c.toNat = true) (text : Text) :
    trim (text ++ [c]) = trim text := by
  have start_eq : trimStart (text ++ [c]) =
      if (trimStart text).isEmpty then [] else trimStart text ++ [c] := by
    simp [trimStart, List.dropWhile_append, blank]
  rw [trim, start_eq, trim]
  split
  next nothing => rw [List.isEmpty_iff.mp nothing]
  · rw [trimEnd_eq_rdropWhile, trimEnd_eq_rdropWhile, List.rdropWhile_concat, if_pos blank]

private theorem trimEnd_prefix (first second : Text) :
    trimEnd first <+: trimEnd (first ++ second) := by
  simp only [trimEnd_eq_rdropWhile]
  -- What follows is cut off from its end, until a character stays.
  induction second using List.reverseRecOn with
  | nil => simp only [List.append_nil, List.prefix_rfl]
  | append_singleton second c induction =>
      rw [← List.append_assoc, List.rdropWhile_concat]
      split
      · exact induction
      · exact (List.rdropWhile_prefix _ first).trans <|
          (List.prefix_append first second).trans (List.prefix_append _ _)

/-- Text that is added behind a text leaves the trimmed text where it is. -/
theorem trim_prefix (first second : Text) : trim first <+: trim (first ++ second) := by
  simp only [trim, trimStart, List.dropWhile_append]
  split
  next nothing =>
    rw [List.isEmpty_iff.mp nothing]
    exact List.nil_prefix
  · exact trimEnd_prefix _ second

end Text

namespace Check

theorem isBlank_iff {text : Text} : isBlank text = true ↔ text.AllBlank := by
  rw [isBlank, List.isEmpty_iff, Text.trim_eq_nil_iff]

@[simp]
theorem isBlank_trim (line : Text) : isBlank line.trim = isBlank line := by
  rw [isBlank, Text.trim_trim, isBlank]

end Check
end DiscoveryFiles
