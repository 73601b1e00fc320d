import DiscoveryFiles.Pattern.Occurrence
import DiscoveryFiles.Pattern.Parser
import DiscoveryFiles.Proofs.Pattern.Stretch
import Mathlib.Logic.Function.Iterate

/-!
# What a search finds

A search turns a set of places into the set of places that a relation leads to from it.  For the
search of a regular pattern the relation is that of its stretches, so that the search succeeds
exactly when there is a stretch.
-/

namespace DiscoveryFiles
namespace Pattern

@[simp]
theorem testBit_places (condition : Nat → Bool) (bound place : Nat) :
    (places condition bound).testBit place = (decide (place < bound) && condition place) := by
  induction bound with
  | zero => simp [places]
  | succ bound induction =>
      have last : ((condition bound).toNat <<< bound).testBit place =
          (decide (place = bound) && condition bound) := by
        rw [Nat.testBit_shiftLeft]
        cases condition bound with
        | false => simp
        | true =>
            rw [Bool.toNat_true, Bool.and_true, Bool.eq_iff_iff]
            simp only [Bool.and_eq_true, decide_eq_true_eq,
              Nat.testBit_one_eq_true_iff_self_eq_zero]
            omega
      rw [places, Nat.testBit_or, induction, last]
      by_cases same : place = bound
      · subst same
        simp
      · have below_iff : place < bound + 1 ↔ place < bound := by omega
        simp [same, below_iff]

/-- A function on sets of places leads from the places of a set to those that a relation leads
to. -/
def Carries (move : Nat → Nat) (step : Nat → Nat → Prop) : Prop :=
  ∀ set finish, (move set).testBit finish = true ↔
    ∃ start, set.testBit start = true ∧ step start finish

theorem Carries.congr {move : Nat → Nat} {step next : Nat → Nat → Prop}
    (carries : Carries move step)
    (same : ∀ start finish, step start finish ↔ next start finish) : Carries move next := by
  intro set finish
  simp only [carries set finish, same]

theorem Carries.stay (condition : Nat → Bool) (bound : Nat) :
    Carries (fun set => set &&& places condition bound)
      fun start finish => start = finish ∧ start < bound ∧ condition start = true := by
  intro set finish
  simp only [Nat.testBit_and, testBit_places, Bool.and_eq_true, decide_eq_true_eq]
  constructor
  · rintro ⟨member, inside, met⟩
    exact ⟨finish, member, rfl, inside, met⟩
  · rintro ⟨_, member, rfl, inside, met⟩
    exact ⟨member, inside, met⟩

theorem Carries.advance (condition : Nat → Bool) (bound : Nat) :
    Carries (fun set => (set &&& places condition bound) <<< 1)
      fun start finish => finish = start + 1 ∧ start < bound ∧ condition start = true := by
  intro set finish
  simp only [Nat.testBit_shiftLeft, Nat.testBit_and, testBit_places, Bool.and_eq_true,
    decide_eq_true_eq]
  constructor
  · rintro ⟨positive, member, inside, met⟩
    exact ⟨finish - 1, member, by omega, inside, met⟩
  · rintro ⟨start, member, rfl, inside, met⟩
    exact ⟨by omega, member, inside, met⟩

/-! ## Repetition -/

private theorem stepTimes_eq_iterate (move : Nat → Nat) (times set : Nat) :
    stepTimes move times set = move^[times] set := by
  induction times generalizing set with
  | zero => rfl
  | succ times induction =>
      rw [stepTimes]
      split
      next fixed => exact (Function.iterate_fixed fixed _).symm
      next => rw [induction, Function.iterate_succ_apply]

private theorem spread_eq_iterate (move : Nat → Nat) (times set : Nat) :
    spread move times set = (fun set => set ||| move set)^[times] set := by
  induction times generalizing set with
  | zero => rfl
  | succ times induction =>
      rw [spread]
      split
      next fixed => exact (Function.iterate_fixed fixed _).symm
      next => rw [induction, Function.iterate_succ_apply]

section Repetition

variable {move other : Nat → Nat} {step next : Nat → Nat → Prop}

theorem Carries.comp (first : Carries move step) (second : Carries other next) :
    Carries (fun set => other (move set))
      fun start finish => ∃ middle, step start middle ∧ next middle finish := by
  intro set finish
  rw [second]
  constructor
  · rintro ⟨middle, found, behind⟩
    obtain ⟨start, member, before⟩ := (first _ _).mp found
    exact ⟨start, member, middle, before, behind⟩
  · rintro ⟨start, member, middle, before, behind⟩
    exact ⟨middle, (first _ _).mpr ⟨start, member, before⟩, behind⟩

theorem Carries.or (first : Carries move step) (second : Carries other next) :
    Carries (fun set => move set ||| other set)
      fun start finish => step start finish ∨ next start finish := by
  intro set finish
  rw [Nat.testBit_or, Bool.or_eq_true, first, second, ← exists_or]
  simp only [and_or_left]

theorem Carries.id : Carries (fun set => set) fun start finish => start = finish := by
  intro set finish
  simp

private theorem Carries.iterate (carries : Carries move step) (times : Nat) :
    Carries move^[times] (Times step times) := by
  induction times with
  | zero =>
      intro set finish
      simp
  | succ times induction =>
      intro set finish
      rw [Function.iterate_succ_apply]
      simp only [Times.succ_iff]
      exact carries.comp induction set finish

/-- A step or a rest, over and over, is a number of steps up to the number of tries. -/
theorem times_reflexive_iff {times start finish : Nat} :
    Times (fun start finish => start = finish ∨ step start finish) times start finish ↔
      ∃ fewer ≤ times, Times step fewer start finish := by
  induction times generalizing start with
  | zero => simp
  | succ times induction =>
      rw [Times.succ_iff]
      constructor
      · rintro ⟨middle, rfl | first, others⟩
        · obtain ⟨fewer, few, steps⟩ := induction.mp others
          exact ⟨fewer, by omega, steps⟩
        · obtain ⟨fewer, few, steps⟩ := induction.mp others
          exact ⟨fewer + 1, by omega, .succ first steps⟩
      · rintro ⟨fewer, few, steps⟩
        cases fewer with
        | zero =>
            obtain rfl := Times.zero_iff.mp steps
            exact ⟨start, .inl rfl, induction.mpr ⟨0, Nat.zero_le _, .zero start⟩⟩
        | succ fewer =>
            obtain ⟨middle, first, others⟩ := Times.succ_iff.mp steps
            exact ⟨middle, .inr first, induction.mpr ⟨fewer, by omega, others⟩⟩

/-- So many steps and then up to so many more. -/
theorem Carries.repeated (carries : Carries move step) (least more : Nat) :
    Carries (fun set => spread move more (stepTimes move least set))
      fun start finish => ∃ times, least ≤ times ∧ times ≤ least + more ∧
        Times step times start finish := by
  intro set finish
  simp only [stepTimes_eq_iterate, spread_eq_iterate]
  rw [(carries.iterate least).comp ((Carries.id.or carries).iterate more) set finish]
  simp only [times_reflexive_iff]
  constructor
  · rintro ⟨start, member, middle, before, fewer, few, behind⟩
    exact ⟨start, member, least + fewer, by omega, by omega,
      Times.add_iff.mpr ⟨middle, before, behind⟩⟩
  · rintro ⟨start, member, times, enough, few, steps⟩
    obtain ⟨fewer, rfl⟩ := Nat.exists_eq_add_of_le enough
    obtain ⟨middle, before, behind⟩ := Times.add_iff.mp steps
    exact ⟨start, member, middle, before, fewer, by omega, behind⟩

end Repetition

/-! ## Searches -/

/-- The search of a regular pattern leads from the places of a set to the ends of the stretches
that start there. -/
theorem exists_search (text : Array CodePoint) {pattern : Pattern}
    (regular : pattern.isRegular = true) :
    ∃ search, pattern.search? text = some search ∧
      Carries search.reach (pattern.Stretch text) := by
  induction pattern with
  | empty =>
      refine ⟨_, rfl, (Carries.stay _ _).congr fun start finish => ?_⟩
      simp only [Stretch, and_true, Nat.lt_succ_iff]
  | one cls =>
      refine ⟨_, rfl, (Carries.advance _ _).congr fun start finish => ?_⟩
      have held_iff : (start < text.size ∧ text[start]?.any cls.contains = true) ↔
          ∃ point, text[start]? = some point ∧ cls.contains point = true := by
        rw [Option.any_eq_true]
        constructor
        · exact And.right
        · rintro ⟨point, found, held⟩
          exact ⟨(Array.getElem?_eq_some_iff.mp found).1, point, found, held⟩
      simp only [Stretch, held_iff]
  | anchor condition =>
      refine ⟨_, rfl, (Carries.stay _ _).congr fun start finish => ?_⟩
      simp only [Stretch, Nat.lt_succ_iff]
  | sequence first second first_carries second_carries =>
      simp only [isRegular, Bool.and_eq_true] at regular
      obtain ⟨search, search_eq, carries⟩ := first_carries regular.1
      obtain ⟨other, other_eq, others⟩ := second_carries regular.2
      refine ⟨.sequence search other, by simp [search?, search_eq, other_eq], ?_⟩
      exact carries.comp others
  | either first second first_carries second_carries =>
      simp only [isRegular, Bool.and_eq_true] at regular
      obtain ⟨search, search_eq, carries⟩ := first_carries regular.1
      obtain ⟨other, other_eq, others⟩ := second_carries regular.2
      refine ⟨.either search other, by simp [search?, search_eq, other_eq], ?_⟩
      exact carries.or others
  | repeated manner body least most body_carries =>
      simp only [isRegular, Bool.and_eq_true, bne_iff_ne, ne_eq] at regular
      obtain ⟨⟨notPossessive, ordered⟩, body_regular⟩ := regular
      obtain ⟨search, search_eq, carries⟩ := body_carries body_regular
      have repeated_eq : (repeated manner body least most).search? text =
          some (.repeated search least ((most.map (· - least)).getD text.size)) := by
        cases manner with
        | possessive => exact absurd rfl notPossessive
        | greedy | lazy => cases most <;> simp [search?, search_eq]
      refine ⟨_, repeated_eq, (carries.repeated _ _).congr fun start finish => ?_⟩
      cases most with
      | some bound =>
          have least_le : least ≤ bound := by simpa using ordered
          have count_iff (times : Nat) : times ≤ least + (bound - least) ↔ times ≤ bound := by
            omega
          simp [Stretch, count_iff]
      | none =>
          simp only [Stretch, reduceCtorEq, false_implies, implies_true, true_and, Option.map_none,
            Option.getD_none]
          constructor
          · rintro ⟨times, enough, -, steps⟩
            exact ⟨times, enough, steps⟩
          · rintro ⟨times, enough, steps⟩
            obtain ⟨others, rfl⟩ := Nat.exists_eq_add_of_le enough
            obtain ⟨middle, before, behind⟩ := Times.add_iff.mp steps
            obtain ⟨fewer, few, behind⟩ := behind.exists_le Stretch.forward
            have inside := behind.forward Stretch.forward
            exact ⟨least + fewer, by omega, by omega, Times.add_iff.mpr ⟨middle, before, behind⟩⟩
  | group number body body_carries => exact body_carries regular
  | atomic | look | same | choose => cases regular

/-- A regular pattern occurs in a string exactly when it has a stretch that starts in it. -/
theorem occursIn_iff {pattern : Pattern} (regular : pattern.isRegular = true)
    (points : CodePoints) :
    pattern.occursIn points = true ↔
      ∃ start ≤ points.length, ∃ finish, pattern.Stretch points.toArray start finish := by
  obtain ⟨search, search_eq, carries⟩ := exists_search points.toArray regular
  simp only [occursIn, search_eq, Search.succeeds, bne_iff_ne, ne_eq]
  constructor
  · intro succeeds
    obtain ⟨finish, found⟩ := Nat.exists_testBit_of_ne_zero succeeds
    obtain ⟨start, member, stretch⟩ := (carries _ _).mp found
    simp only [testBit_places, Bool.and_true, decide_eq_true_eq, List.size_toArray] at member
    exact ⟨start, by omega, finish, stretch⟩
  · rintro ⟨start, inside, finish, stretch⟩ nothing
    have found : (search.reach (places (fun _ => true) (points.toArray.size + 1))).testBit finish =
        true := by
      refine (carries _ _).mpr ⟨start, ?_, stretch⟩
      simp only [testBit_places, Bool.and_true, decide_eq_true_eq, List.size_toArray]
      omega
    rw [nothing, Nat.zero_testBit] at found
    cases found

/-- A string contains a match of the pattern that some words write. -/
def Matches (words : String) (points : CodePoints) : Prop :=
  ∃ pattern, parse (CodePoints.ofString words) = .ok pattern ∧
    ∃ start ≤ points.length, ∃ finish, pattern.Stretch points.toArray start finish

theorem matches_iff_occursIn {words : String} {pattern : Pattern}
    (read : parse (CodePoints.ofString words) = .ok pattern) (regular : pattern.isRegular = true)
    (points : CodePoints) : Matches words points ↔ pattern.occursIn points = true := by
  rw [occursIn_iff regular, Matches, read]
  simp

end Pattern
end DiscoveryFiles
