import DiscoveryFiles.Proofs.Json.Escape
import DiscoveryFiles.Proofs.Json.Grammar

/-!
# Reading strings

The reader takes a string of the grammar off the front of a text, and whatever it takes is a string
of the grammar.
-/

namespace DiscoveryFiles
namespace Json

/-! ## Surrogate pairs -/

private theorem isLeading_iff {point : CodePoint} :
    IsLeading point ↔ ∃ offset : Fin 0x800, offset.val < 0x400 ∧ point = .surrogate offset := by
  cases point with
  | scalar c =>
      have outside := CodePoint.not_between_surrogates c
      simp only [IsLeading, CodePoint.number, reduceCtorEq, and_false, exists_false, iff_false]
      omega
  | surrogate offset =>
      simp only [IsLeading, CodePoint.number, CodePoint.surrogate.injEq, exists_eq_right']
      omega

private theorem isTrailing_iff {point : CodePoint} :
    IsTrailing point ↔ ∃ offset : Fin 0x800, 0x400 ≤ offset.val ∧ point = .surrogate offset := by
  cases point with
  | scalar c =>
      have outside := CodePoint.not_between_surrogates c
      simp only [IsTrailing, CodePoint.number, reduceCtorEq, and_false, exists_false, iff_false]
      omega
  | surrogate offset =>
      have below := offset.isLt
      simp only [IsTrailing, CodePoint.number, CodePoint.surrogate.injEq, exists_eq_right']
      omega

private theorem pair?_of_halves {first second : CodePoint} (leading : IsLeading first)
    (trailing : IsTrailing second) :
    first.pair? second = some (Char.ofNat
      (0x10000 + (first.number - 0xD800) * 0x400 + (second.number - 0xDC00))) := by
  obtain ⟨offset, low, rfl⟩ := isLeading_iff.mp leading
  obtain ⟨other, high, rfl⟩ := isTrailing_iff.mp trailing
  have behind : 0xD800 + other.val - 0xDC00 = other.val - 0x400 := by omega
  simp [CodePoint.pair?, CodePoint.number, low, high, behind]

private theorem pair?_of_not_halves {first second : CodePoint}
    (unpaired : ¬(IsLeading first ∧ IsTrailing second)) : first.pair? second = none := by
  rw [isLeading_iff, isTrailing_iff] at unpaired
  rw [CodePoint.pair?.eq_def]
  split
  next leading trailing =>
    rw [if_neg]
    exact fun halves => unpaired ⟨⟨leading, halves.1, rfl⟩, ⟨trailing, halves.2, rfl⟩⟩
  · rfl

/-- The reader combines the halves of surrogate pairs as the grammar says. -/
theorem joined_iff {units points : CodePoints} :
    Joined units points ↔ points = units.joinPairs := by
  constructor
  · intro joined
    induction joined with
    | nil => rfl
    | pair leading trailing _ induction =>
        rw [CodePoints.joinPairs, pair?_of_halves leading trailing, induction]
    | @single first units points unpaired _ induction =>
        cases units with
        | nil => rw [induction]; rfl
        | cons second units =>
            rw [CodePoints.joinPairs, pair?_of_not_halves (unpaired second rfl), induction]
  · rintro rfl
    induction units using CodePoints.joinPairs.induct with
    | case1 => exact .nil
    | case2 point => exact .single (by simp) .nil
    | case3 first second rest c pair_eq induction =>
        by_cases halves : IsLeading first ∧ IsTrailing second
        · rw [CodePoints.joinPairs, pair?_of_halves halves.1 halves.2]
          exact .pair halves.1 halves.2 induction
        · rw [pair?_of_not_halves halves] at pair_eq
          cases pair_eq
    | case4 first second rest pair_eq induction =>
        rw [CodePoints.joinPairs, pair_eq]
        refine .single ?_ induction
        rintro _ ⟨⟩ ⟨leading, trailing⟩
        rw [pair?_of_halves leading trailing] at pair_eq
        cases pair_eq

/-! ## Escapes -/

namespace Parser

private theorem hexValue?_eq_some_iff {c : Char} {n : Nat} :
    hexValue? c = some n ↔ IsHexDigit c n := by
  constructor
  · intro valued
    have below : c.toNat < 103 := by
      rw [hexValue?] at valued
      split at valued
      next digit => exact Nat.lt_of_le_of_lt digit.2 (by decide)
      next =>
        split at valued
        next lower => exact Nat.lt_of_le_of_lt lower.2 (by decide)
        next =>
          split at valued
          next upper => exact Nat.lt_of_le_of_lt upper.2 (by decide)
          next => cases valued
    have each : ∀ k < 103, ∀ n ∈ hexValue? (Char.ofNat k),
        n < 16 ∧ (Char.ofNat k = n.digitChar ∨ Char.ofNat k = n.digitChar.toUpper) := by
      decide +kernel
    have here := each c.toNat below n
    rw [Char.ofNat_toNat] at here
    exact here valued
  · have each : ∀ n < 16, hexValue? n.digitChar = some n ∧
        hexValue? n.digitChar.toUpper = some n := by
      decide +kernel
    rintro ⟨small, rfl | rfl⟩
    · exact (each n small).1
    · exact (each n small).2

private theorem hexNumber?_eq_some_iff {a b c d : Char} {n : Nat} :
    hexNumber? a b c d = some n ↔ ∃ w x y z, IsHexDigit a w ∧ IsHexDigit b x ∧ IsHexDigit c y ∧
      IsHexDigit d z ∧ n = ((w * 16 + x) * 16 + y) * 16 + z := by
  simp only [← hexValue?_eq_some_iff, hexNumber?]
  split
  next w x y z first second third fourth => simp [first, second, third, fourth, eq_comm]
  next none_valued =>
    refine iff_of_false (by simp) ?_
    rintro ⟨w, x, y, z, first, second, third, fourth, -⟩
    exact none_valued w x y z first second third fourth

private theorem escaped?_eq_some_iff {letter c : Char} :
    escaped? letter = some c ↔ (letter, c) ∈ shortEscapes := by
  rw [escaped?.eq_def]
  constructor
  · intro known
    split at known <;> cases known <;> decide
  · simp only [shortEscapes, List.mem_cons, List.not_mem_nil, or_false, Prod.mk.injEq]
    rintro (⟨rfl, rfl⟩ | ⟨rfl, rfl⟩ | ⟨rfl, rfl⟩ | ⟨rfl, rfl⟩ | ⟨rfl, rfl⟩ | ⟨rfl, rfl⟩ |
      ⟨rfl, rfl⟩ | ⟨rfl, rfl⟩) <;> rfl

/-! ## Strings -/

private theorem before_eq_ok_iff {point : CodePoint} {outcome : Outcome CodePoints}
    {points : CodePoints}
    {rest : Text} :
    before point outcome = .ok (points, rest) ↔
      ∃ others, outcome = .ok (others, rest) ∧ points = point :: others := by
  cases outcome with
  | error failure => simp [before]
  | ok result =>
      obtain ⟨others, behind⟩ := result
      simp only [before, Except.ok.injEq, Prod.mk.injEq]
      constructor
      · rintro ⟨rfl, rfl⟩
        exact ⟨others, ⟨rfl, rfl⟩, rfl⟩
      · rintro ⟨_, ⟨rfl, rfl⟩, rfl⟩
        exact ⟨rfl, rfl⟩

/-- What is read up to a closing quote consists of units. -/
theorem exists_unitsText {opening text rest : Text} {units : CodePoints}
    (taken : stringBody opening text = .ok (units, rest)) :
    ∃ body, UnitsText body units ∧ text = body ++ '"' :: rest := by
  fun_induction stringBody opening text generalizing units with
  | case1 | case3 | case5 | case6 | case8 | case9 => cases taken
  | case2 rest =>
      cases taken
      exact ⟨[], .nil, rfl⟩
  | case4 a b c d next behind n number_eq induction =>
      obtain ⟨others, body_eq, rfl⟩ := before_eq_ok_iff.mp taken
      obtain ⟨body, written, text_eq⟩ := induction body_eq
      obtain ⟨w, x, y, z, first, second, third, fourth, rfl⟩ :=
        hexNumber?_eq_some_iff.mp number_eq
      refine ⟨_, .cons (.numbered first second third fourth) written, ?_⟩
      simp [text_eq]
  | case7 letter behind _ _ c known induction =>
      obtain ⟨others, body_eq, rfl⟩ := before_eq_ok_iff.mp taken
      obtain ⟨body, written, text_eq⟩ := induction body_eq
      refine ⟨_, .cons (.short (escaped?_eq_some_iff.mp known)) written, ?_⟩
      simp [text_eq]
  | case10 c behind quote alone _ _ followed shown induction =>
      obtain ⟨others, body_eq, rfl⟩ := before_eq_ok_iff.mp taken
      obtain ⟨body, written, text_eq⟩ := induction body_eq
      have noBackslash : c ≠ '\\' := by
        intro same
        cases behind with
        | nil => exact alone same rfl
        | cons next behind => exact followed next behind same rfl
      refine ⟨_, .cons (.plain (Nat.not_lt.mp shown) ⟨quote, noBackslash⟩) written, ?_⟩
      simp [text_eq]

private theorem stringBody_append {body : Text} {units : CodePoints}
    (written : UnitsText body units)
    (opening rest : Text) :
    stringBody opening (body ++ '"' :: rest) = .ok (units, rest) := by
  induction written with
  | nil => simp [stringBody]
  | @cons text others unit units first _ induction =>
      rw [List.append_assoc]
      cases first with
      | @plain c shown unmarked =>
          rw [List.cons_append, List.nil_append,
            stringBody_unescaped opening unmarked (Nat.not_lt.mpr shown), induction]
          rfl
      | short listed =>
          rw [List.cons_append, List.cons_append, List.nil_append,
            stringBody_escaped opening (escaped?_eq_some_iff.mpr listed), induction]
          rfl
      | @numbered a b c d w x y z first second third fourth =>
          -- The closing quote is behind the last escape, so there is always a further character.
          obtain ⟨next, behind, further⟩ : ∃ next behind, others ++ '"' :: rest = next :: behind :=
            List.exists_cons_of_ne_nil (by simp)
          have number_eq : hexNumber? a b c d = some (((w * 16 + x) * 16 + y) * 16 + z) :=
            hexNumber?_eq_some_iff.mpr ⟨w, x, y, z, first, second, third, fourth, rfl⟩
          simp only [List.cons_append, List.nil_append]
          rw [further] at induction ⊢
          rw [stringBody, number_eq]
          simp only [induction]
          rfl

/-- What is read as a string is a string. -/
theorem exists_stringText {text rest : Text} {points : CodePoints}
    (taken : string text = .ok (points, rest)) :
    ∃ used, StringText used points ∧ '"' :: text = used ++ rest := by
  rw [string] at taken
  split at taken
  next units behind body_eq =>
    cases taken
    obtain ⟨body, written, rfl⟩ := exists_unitsText body_eq
    exact ⟨_, .quoted written (joined_iff.mpr rfl), by simp⟩
  · cases taken

/-- A string of the grammar is read, whatever follows. -/
theorem string_append {used : Text} {points : CodePoints} (written : StringText used points)
    (rest : Text) :
    ∃ text, used ++ rest = '"' :: text ∧ string text = .ok (points, rest) := by
  obtain ⟨inside, joined⟩ := written
  rw [List.cons_append, List.append_assoc]
  refine ⟨_, rfl, ?_⟩
  rw [List.singleton_append, string, stringBody_append inside, joined_iff.mp joined]

end Parser
end Json
end DiscoveryFiles
