import DiscoveryFiles.Pattern.Basic

/-!
# Stretches of a pattern

A pattern relates the place where a stretch starts to the place where it ends.  The relation is
given here by recursion on the pattern, for the patterns that two places are enough for.
-/

namespace DiscoveryFiles
namespace Pattern

/-! ## Steps in a row -/

/-- So many steps in a row lead from one place to another. -/
inductive Times (step : Nat → Nat → Prop) : Nat → Nat → Nat → Prop where
  /-- No step leads nowhere else. -/
  | zero (place : Nat) : Times step 0 place place
  /-- One step and then the others. -/
  | succ {times start middle finish : Nat} (first : step start middle)
      (others : Times step times middle finish) : Times step (times + 1) start finish

namespace Times

variable {step : Nat → Nat → Prop} {m n start finish : Nat}

@[simp]
theorem zero_iff : Times step 0 start finish ↔ start = finish := by
  constructor
  · rintro ⟨⟩
    rfl
  · rintro rfl
    exact .zero _

theorem succ_iff :
    Times step (n + 1) start finish ↔
      ∃ middle, step start middle ∧ Times step n middle finish := by
  constructor
  · rintro ⟨⟩
    next middle first others => exact ⟨middle, first, others⟩
  · rintro ⟨middle, first, others⟩
    exact .succ first others

theorem add_iff :
    Times step (m + n) start finish ↔
      ∃ middle, Times step m start middle ∧ Times step n middle finish := by
  induction m generalizing start with
  | zero => simp
  | succ m induction =>
      simp only [Nat.succ_add, succ_iff, induction]
      constructor
      · rintro ⟨next, first, middle, before, behind⟩
        exact ⟨middle, ⟨next, first, before⟩, behind⟩
      · rintro ⟨middle, ⟨next, first, before⟩, behind⟩
        exact ⟨next, first, middle, before, behind⟩

/-- Steps that stay or go forward within a bound go forward together. -/
theorem forward {bound : Nat}
    (advances : ∀ {start finish}, step start finish →
      start = finish ∨ start < finish ∧ finish ≤ bound)
    (steps : Times step n start finish) : start = finish ∨ start < finish ∧ finish ≤ bound := by
  induction steps with
  | zero place => exact .inl rfl
  | succ first others induction =>
      rcases advances first with rfl | ahead
      · exact induction
      · omega

/-- Steps that stay can be left out, so that there are no more steps than places passed. -/
theorem exists_le {bound : Nat}
    (advances : ∀ {start finish}, step start finish →
      start = finish ∨ start < finish ∧ finish ≤ bound)
    (steps : Times step n start finish) :
    ∃ fewer ≤ finish - start, Times step fewer start finish := by
  induction steps with
  | zero place => exact ⟨0, Nat.zero_le _, .zero place⟩
  | succ first others induction =>
      obtain ⟨fewer, few, steps⟩ := induction
      rcases advances first with rfl | ahead
      · exact ⟨fewer, few, steps⟩
      · have onward := others.forward advances
        exact ⟨fewer + 1, by omega, .succ first steps⟩

end Times

/-! ## Stretches -/

/-- A pattern has a stretch from one place of a text to another. -/
def Stretch (text : Array CodePoint) : Pattern → Nat → Nat → Prop
  | empty, start, finish => start = finish ∧ start ≤ text.size
  | one cls, start, finish =>
      finish = start + 1 ∧ ∃ point, text[start]? = some point ∧ cls.contains point = true
  | anchor condition, start, finish =>
      start = finish ∧ start ≤ text.size ∧ condition.holds text start = true
  | sequence first second, start, finish =>
      ∃ middle, first.Stretch text start middle ∧ second.Stretch text middle finish
  | either first second, start, finish =>
      first.Stretch text start finish ∨ second.Stretch text start finish
  | repeated _ body least most, start, finish =>
      ∃ times, least ≤ times ∧ (∀ bound, most = some bound → times ≤ bound) ∧
        Times (body.Stretch text) times start finish
  | group _ body, start, finish => body.Stretch text start finish
  | _, _, _ => False

/-- Two places are enough for a pattern, and its repetitions have counts in order. -/
def isRegular : Pattern → Bool
  | empty | one _ | anchor _ => true
  | sequence first second | either first second => first.isRegular && second.isRegular
  | repeated manner body least most =>
      manner != .possessive && most.all (least ≤ ·) && body.isRegular
  | group _ body => body.isRegular
  | _ => false

/-- A stretch is empty or goes forward within the text. -/
theorem Stretch.forward {text : Array CodePoint} {pattern : Pattern} {start finish : Nat}
    (stretch : pattern.Stretch text start finish) :
    start = finish ∨ start < finish ∧ finish ≤ text.size := by
  induction pattern generalizing start finish with
  | empty => exact .inl stretch.1
  | one cls =>
      obtain ⟨rfl, point, found, -⟩ := stretch
      obtain ⟨inside, -⟩ := Array.getElem?_eq_some_iff.mp found
      omega
  | anchor condition => exact .inl stretch.1
  | sequence first second first_forward second_forward =>
      obtain ⟨middle, before, behind⟩ := stretch
      have first_ends := first_forward before
      have second_ends := second_forward behind
      omega
  | either first second first_forward second_forward =>
      rcases stretch with found | found
      · exact first_forward found
      · exact second_forward found
  | repeated manner body least most body_forward =>
      obtain ⟨times, -, -, steps⟩ := stretch
      exact steps.forward body_forward
  | group number body body_forward => exact body_forward stretch
  | atomic | look | same | choose => exact stretch.elim

end Pattern
end DiscoveryFiles
