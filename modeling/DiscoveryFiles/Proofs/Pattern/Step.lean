import DiscoveryFiles.Pattern.Parser
import DiscoveryFiles.Proofs.Pattern.Expression

/-!
# Steps of reading a pattern

A step is described by what it needs of the cursor at its start and what holds of its value and of
the cursor at its end.  Mostly this is the text that the cursor faces.
-/

namespace DiscoveryFiles
namespace Pattern
namespace Parser

/-! ## Steps that succeed -/

/-- From each cursor with a property a step succeeds, and its value and the next cursor are
related. -/
def Passes {α : Type} (before : Cursor → Prop) (step : Step α) (after : α → Cursor → Prop) : Prop :=
  ∀ cursor, before cursor → ∃ value next, step.run cursor = .ok (value, next) ∧ after value next

/-- A step returns a value and leaves a cursor with a property. -/
def Returns {α : Type} (value : α) (after : Cursor → Prop) : α → Cursor → Prop :=
  fun other cursor => other = value ∧ after cursor

namespace Passes

variable {α β : Type} {before middle : Cursor → Prop} {step : Step α} {next : α → Step β}
  {after : β → Cursor → Prop}

theorem bind {between : α → Cursor → Prop} (first : Passes before step between)
    (others : ∀ value, Passes (between value) (next value) after) :
    Passes before (step >>= next) after := by
  intro cursor holds
  obtain ⟨value, other, first_eq, related⟩ := first cursor holds
  obtain ⟨result, last, others_eq, final⟩ := others value other related
  refine ⟨result, last, ?_, final⟩
  rw [StateT.run_bind, first_eq]
  exact others_eq

/-- What comes behind a step that returns a known value. -/
theorem andThen {value : α} (first : Passes before step (Returns value middle))
    (others : Passes middle (next value) after) : Passes before (step >>= next) after :=
  first.bind fun _ cursor returned => returned.1 ▸ others cursor returned.2

theorem pure {value : β} (holds : ∀ cursor, before cursor → after value cursor) :
    Passes before (Pure.pure value) after :=
  fun cursor given => ⟨value, cursor, rfl, holds cursor given⟩

theorem returns (value : α) : Passes before (Pure.pure value) (Returns value before) :=
  pure fun _ given => ⟨rfl, given⟩

theorem imp {step : Step β} {weaker : β → Cursor → Prop} (passes : Passes before step after)
    (implies : ∀ value cursor, after value cursor → weaker value cursor) :
    Passes before step weaker := by
  intro cursor holds
  obtain ⟨value, next, step_eq, related⟩ := passes cursor holds
  exact ⟨value, next, step_eq, implies value next related⟩

/-- What is known apart from the cursor comes first. -/
theorem of_and {known : Prop} {step : Step β} (passes : known → Passes before step after) :
    Passes (fun cursor => known ∧ before cursor) step after :=
  fun cursor given => passes given.1 cursor given.2

/-- A step that looks at the cursor. -/
theorem get_bind {next : Cursor → Step β}
    (others : ∀ cursor, before cursor → Passes (· = cursor) (next cursor) after) :
    Passes before (get >>= next) after :=
  fun cursor holds => others cursor holds cursor rfl

theorem here_bind {next : Nat → Step β} (others : ∀ index, Passes before (next index) after) :
    Passes before (here >>= next) after :=
  fun cursor holds => others cursor.index cursor holds

theorem modify_bind {change : Cursor → Cursor} {next : PUnit → Step β}
    (changed : ∀ cursor, before cursor → middle (change cursor))
    (others : Passes middle (next ⟨⟩) after) : Passes before (modify change >>= next) after :=
  fun cursor holds => others (change cursor) (changed cursor holds)

/-- A step from a single cursor, where all cursors with a property would do. -/
theorem at_cursor {cursor : Cursor} {step : Step β} (passes : Passes before step after)
    (holds : before cursor) : Passes (· = cursor) step after := by
  rintro _ rfl
  exact passes _ holds

end Passes

/-! ## Texts as tokens -/

/-- The first token of a text, and what is behind it. -/
inductive Starts : CodePoints → Token → CodePoints → Prop where
  /-- A character that is no backslash. -/
  | plain {point : CodePoint} (noEscape : point ≠ .scalar '\\') (rest : CodePoints) :
      Starts (point :: rest) ⟨false, point⟩ rest
  /-- A backslash and the character behind it. -/
  | escaped (point : CodePoint) (rest : CodePoints) :
      Starts (.scalar '\\' :: point :: rest) ⟨true, point⟩ rest

theorem Starts.tokens_eq {text rest : CodePoints} {token : Token}
    (starts : Starts text token rest) :
    tokens text = (token :: (tokens rest).1, (tokens rest).2) := by
  cases starts with
  | plain noEscape =>
      rw [tokens.eq_4]
      · rintro rfl
        exact absurd rfl noEscape
      · rintro next others rfl
        exact absurd rfl noEscape
  | escaped point => rw [tokens]

/-- No backslash is left over at the end of a text. -/
inductive IsWhole : CodePoints → Prop where
  /-- Nothing is left over of nothing. -/
  | nil : IsWhole []
  /-- One token and then others. -/
  | cons {text rest : CodePoints} {token : Token} (starts : Starts text token rest)
      (others : IsWhole rest) : IsWhole text

/-- The tokens of a text. -/
def tokensOf (text : CodePoints) : List Token :=
  (tokens text).1

@[simp]
theorem tokensOf_nil : tokensOf [] = [] := by
  simp [tokensOf, tokens]

theorem Starts.tokensOf_eq {text rest : CodePoints} {token : Token}
    (starts : Starts text token rest) : tokensOf text = token :: tokensOf rest := by
  rw [tokensOf, starts.tokens_eq]
  rfl

theorem Starts.append {text rest : CodePoints} {token : Token} (starts : Starts text token rest)
    (behind : CodePoints) : Starts (text ++ behind) token (rest ++ behind) := by
  cases starts with
  | plain noEscape => exact .plain noEscape _
  | escaped point => exact .escaped point _

/-- A text starts in one way. -/
theorem Starts.unique {text rest other : CodePoints} {token next : Token}
    (starts : Starts text token rest) (again : Starts text next other) :
    token = next ∧ rest = other := by
  cases starts with
  | plain noEscape =>
      cases again with
      | plain => exact ⟨rfl, rfl⟩
      | escaped => exact absurd rfl noEscape
  | escaped point =>
      cases again with
      | plain noEscape => exact absurd rfl noEscape
      | escaped => exact ⟨rfl, rfl⟩

namespace IsWhole

variable {text rest : CodePoints}

theorem tokens_eq (whole : IsWhole text) : tokens text = (tokensOf text, false) := by
  induction whole with
  | nil => simp [tokensOf, tokens]
  | cons starts others induction => rw [starts.tokens_eq, starts.tokensOf_eq, induction]

private theorem of_starts {token : Token} (whole : IsWhole text) (starts : Starts text token rest) :
    IsWhole rest := by
  cases whole with
  | nil => cases starts
  | cons first others => exact (first.unique starts).2 ▸ others

theorem append (whole : IsWhole text) (others : IsWhole rest) : IsWhole (text ++ rest) := by
  induction whole with
  | nil => exact others
  | cons starts _ induction => exact .cons (starts.append _) induction

theorem tokensOf_append (whole : IsWhole text) (rest : CodePoints) :
    tokensOf (text ++ rest) = tokensOf text ++ tokensOf rest := by
  induction whole with
  | nil => simp
  | cons starts _ induction =>
      rw [(starts.append rest).tokensOf_eq, starts.tokensOf_eq, induction, List.cons_append]

theorem tokensOf_pos (whole : IsWhole text) (nonempty : text ≠ []) :
    0 < (tokensOf text).length := by
  cases whole with
  | nil => exact absurd rfl nonempty
  | cons starts => simp [starts.tokensOf_eq]

theorem plain {point : CodePoint} (noEscape : point ≠ .scalar '\\') : IsWhole [point] :=
  .cons (.plain noEscape []) .nil

theorem escaped (point : CodePoint) : IsWhole [.scalar '\\', point] :=
  .cons (.escaped point []) .nil

/-- A text without backslashes is whole, and each of its characters is a token. -/
theorem of_forall (text : CodePoints) (noEscapes : ∀ point ∈ text, point ≠ .scalar '\\') :
    IsWhole text ∧ (tokensOf text).length = text.length := by
  induction text with
  | nil => exact ⟨.nil, by simp⟩
  | cons point text induction =>
      obtain ⟨noEscape, others⟩ := List.forall_mem_cons.mp noEscapes
      obtain ⟨whole, count⟩ := induction others
      refine ⟨.cons (.plain noEscape text) whole, ?_⟩
      rw [(Starts.plain noEscape text).tokensOf_eq, List.length_cons, List.length_cons, count]

end IsWhole

/-! ## Cursors that face a text -/

/-- A cursor faces a text outside of all special constructs, and the names of the groups that it
has passed are known. -/
structure At (text : CodePoints) (known : List CodePoints) (cursor : Cursor) : Prop where
  /-- The text is whole. -/
  whole : IsWhole text
  /-- Its tokens follow. -/
  rest_eq : cursor.rest = tokensOf text
  /-- No backslash is left over. -/
  dangling_eq : cursor.dangling = false
  /-- No flags hold. -/
  flags_eq : cursor.flags = []
  /-- No choices have been passed. -/
  choices_eq : cursor.choices = []
  /-- Every name of a group is known. -/
  named : ∀ name, name ∉ known → cursor.names.lookup name = none

section Tokens

variable {text rest : CodePoints} {known : List CodePoints} {token : Token}

theorem At.mono {cursor : Cursor} {others : List CodePoints} (facing : At text known cursor)
    (subset : known ⊆ others) : At text others cursor :=
  { facing with named := fun name unknown => facing.named name (mt (@subset name) unknown) }

theorem passes_take (starts : Starts text token rest) :
    Passes (At text known) take (Returns (some token) (At rest known)) := by
  intro cursor facing
  have rest_eq : cursor.rest = token :: tokensOf rest := facing.rest_eq.trans starts.tokensOf_eq
  have whole := facing.whole.of_starts starts
  refine ⟨some token,
    { cursor with index := cursor.index + token.points.length, rest := tokensOf rest }, ?_, rfl, ?_⟩
  · simp [take, check, rest_eq, facing.dangling_eq, StateT.run_bind, StateT.run_get]
    rfl
  · exact { facing with whole, rest_eq := rfl }

/-- The next token is a character if the text starts with it. -/
theorem At.head_is_iff {cursor : Cursor} (facing : At text known cursor) {c : Char}
    (noEscape : c ≠ '\\') :
    cursor.rest.head?.any (·.is c) = true ↔ text.head? = some (.scalar c) := by
  rw [facing.rest_eq]
  cases facing.whole with
  | nil => simp
  | cons starts =>
      rw [starts.tokensOf_eq]
      cases starts with
      | plain => simp [Token.is]
      | escaped => simp [Token.is, Ne.symm noEscape]

theorem passes_isNext {c : Char} (noEscape : c ≠ '\\') :
    Passes (At text known) (isNext c)
      (Returns (text.head? == some (.scalar c)) (At text known)) := by
  intro cursor facing
  refine ⟨_, cursor, rfl, ?_, facing⟩
  rw [Bool.eq_iff_iff, facing.head_is_iff noEscape, beq_iff_eq]

theorem passes_accept {c : Char} (noEscape : c ≠ '\\') :
    Passes (At (.scalar c :: rest) known) (accept c) (Returns true (At rest known)) := by
  refine (passes_isNext noEscape).andThen ?_
  rw [List.head?_cons, beq_self_eq_true, if_pos rfl]
  exact (passes_take (.plain (by simpa using noEscape) rest)).andThen (.returns true)

theorem passes_accept_not {c : Char} (noEscape : c ≠ '\\')
    (differs : text.head? ≠ some (.scalar c)) :
    Passes (At text known) (accept c) (Returns false (At text known)) := by
  refine (passes_isNext noEscape).andThen ?_
  rw [beq_eq_false_iff_ne.mpr differs, if_neg Bool.false_ne_true]
  exact .returns false

/-- A text goes on with no character of a kind. -/
def EndsRun (kind : Char → Bool) (text : CodePoints) : Prop :=
  ∀ c, text.head? = some (.scalar c) → kind c = false

/-- Digits of a kind are taken up to a number of them, if so many are written or no other one
follows. -/
theorem passes_takeUpTo {Digit : Type} {kind : Char → Bool} (noEscape : kind '\\' = false)
    {letter : Digit → Char} (isKind : ∀ digit, kind (letter digit) = true) (digits : List Digit)
    {count : Nat} (few : digits.length ≤ count)
    (ended : digits.length = count ∨ EndsRun kind rest) :
    Passes (At ((digits.map fun digit => .scalar (letter digit)) ++ rest) known)
      (takeUpTo kind count)
      (Returns (digits.map fun digit => .scalar (letter digit)) (At rest known)) := by
  induction count generalizing digits with
  | zero =>
      obtain rfl := List.length_eq_zero_iff.mp (Nat.le_zero.mp few)
      exact .returns []
  | succ count induction =>
      refine Passes.get_bind fun cursor facing => Passes.at_cursor ?_ facing
      have rest_eq := facing.rest_eq
      cases digits with
      | nil =>
          have stops : EndsRun kind rest := ended.resolve_left (Nat.succ_ne_zero count).symm
          rw [List.map_nil, List.nil_append] at facing rest_eq ⊢
          -- what follows is the end, an escape, half of a pair, or a character of another kind
          cases facing.whole with
          | nil =>
              rw [rest_eq, tokensOf_nil]
              exact .returns []
          | cons starts =>
              rw [rest_eq, starts.tokensOf_eq]
              cases starts with
              | escaped point => exact .returns []
              | @plain point noEscape behind =>
                  cases point with
                  | surrogate offset => exact .returns []
                  | scalar c =>
                      simp only [stops c rfl, Bool.false_eq_true, if_false]
                      exact .returns []
      | cons digit digits =>
          have starts (text : CodePoints) :
              Starts (.scalar (letter digit) :: text) ⟨false, .scalar (letter digit)⟩ text := by
            refine .plain ?_ text
            rw [ne_eq, CodePoint.scalar.injEq]
            intro backslash
            have := isKind digit
            rw [backslash, noEscape] at this
            cases this
          rw [List.map_cons, List.cons_append, (starts _).tokensOf_eq] at rest_eq
          rw [rest_eq]
          simp only [isKind, if_true]
          refine (passes_take (starts _)).andThen ((induction digits ?_ ?_).andThen (.returns _))
          · simpa using few
          · simpa using ended

theorem passes_remaining : Passes (At text known) remaining
    (Returns ((tokensOf text).length + 1) (At text known)) :=
  fun cursor facing => ⟨_, cursor, rfl, congrArg (·.length + 1) facing.rest_eq, facing⟩

end Tokens

end Parser
end Pattern
end DiscoveryFiles
