import DiscoveryFiles.Text.Position
import Mathlib.Data.List.TakeWhile

/-!
# Positions

The line and the column of a place, told from the line feeds in front of it.
-/

namespace DiscoveryFiles
namespace Text

variable {α : Type} [DecidableEq α] (feed : α)

/-- Whether a position is that of a place in a text whose lines end with `feed`. -/
structure IsPlace (text : List α) (place : Position) : Prop where
  /-- The place is in the text, or right behind it. -/
  within : place.index ≤ text.length
  /-- One line more than there are line ends in front of the place. -/
  line_eq : place.line = 1 + (text.take place.index).count feed
  /-- The column is counted from the last line end in front of the place or, if there is none, from
  the start. -/
  column_eq :
    (feed ∉ text.take place.index ∧ place.column = place.index + 1) ∨
      ∃ last < place.index, text[last]? = some feed ∧
        (∀ other, last < other → other < place.index → text[other]? ≠ some feed) ∧
        place.column = place.index - last

section Column

variable {front back : List α} (absent : feed ∉ back)

include absent

private theorem forall_mem_reverse_ne : ∀ c ∈ back.reverse, decide (c ≠ feed) = true := by
  intro c member
  have differ : c ≠ feed := fun same => absent (same ▸ List.mem_reverse.mp member)
  simpa using differ

private theorem columnAfter_of_not_mem : columnAfter feed back = back.length + 1 := by
  rw [columnAfter, List.takeWhile_eq_self_iff.mpr (forall_mem_reverse_ne feed absent),
    List.length_reverse]

/-- Only what stands behind the last line end counts. -/
theorem columnAfter_append : columnAfter feed (front ++ feed :: back) = back.length + 1 := by
  have stopped : (feed :: front.reverse).takeWhile (· ≠ feed) = [] :=
    List.takeWhile_cons_of_neg (by simp)
  rw [columnAfter, List.reverse_append, List.reverse_cons, List.append_assoc,
    List.singleton_append, List.takeWhile_append_of_pos (forall_mem_reverse_ne feed absent),
    stopped, List.append_nil, List.length_reverse]

end Column

omit [DecidableEq α] in
private theorem exists_last_feed {before : List α} (member : feed ∈ before) :
    ∃ front back, before = front ++ feed :: back ∧ feed ∉ back := by
  obtain ⟨back, front, shape, absent⟩ :=
    List.eq_append_cons_of_mem (List.mem_reverse.mpr member)
  refine ⟨front.reverse, back.reverse, ?_, by simpa using absent⟩
  rw [← List.reverse_reverse before, shape]
  simp

/-- The position behind some characters of a text is the one of this place. -/
theorem isPlace_positionAt {text : List α} {index : Nat} (within : index ≤ text.length) :
    IsPlace feed text (positionAt feed text index) := by
  refine ⟨within, Nat.add_comm _ _, ?_⟩
  simp only [positionAt]
  have length_eq : (text.take index).length = index := List.length_take_of_le within
  by_cases member : feed ∈ text.take index
  · obtain ⟨front, back, shape, absent⟩ := exists_last_feed feed member
    rw [shape, List.length_append, List.length_cons] at length_eq
    have inside (other : Nat) (earlier : other < index) :
        text[other]? = (front ++ feed :: back)[other]? := by
      rw [← shape, List.getElem?_take_of_lt earlier]
    refine .inr ⟨front.length, by omega, ?_, fun other behind earlier same => ?_, ?_⟩
    · rw [inside _ (by omega), List.getElem?_append_right (Nat.le_refl _)]
      simp
    · obtain ⟨offset, rfl⟩ := Nat.exists_eq_add_of_lt behind
      rw [inside _ earlier, List.getElem?_append_right (by omega), Nat.add_assoc,
        Nat.add_sub_cancel_left, List.getElem?_cons_succ] at same
      exact absent (List.mem_of_getElem? same)
    · rw [shape, columnAfter_append feed absent]
      omega
  · refine .inl ⟨member, ?_⟩
    rw [columnAfter_of_not_mem feed member, length_eq]

end Text
end DiscoveryFiles
