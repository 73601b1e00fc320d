import DiscoveryFiles.Proofs.Pattern.Counts
import DiscoveryFiles.Proofs.Pattern.Escape

/-!
# Reading items back

What the reader does at one item of a row: it puts the pattern of the item in front of those
before, or repeats the last one.
-/

namespace DiscoveryFiles
namespace Pattern
namespace Parser

variable {known : List CodePoints} {rest : CodePoints}

section Items

variable {initial : Bool} {item : Pattern} {items : List Pattern} {text : CodePoints}
  {after : Pattern → Cursor → Prop}

/-- A text goes on with something else than a closing parenthesis or a bar. -/
def GoesOn (text : CodePoints) : Prop :=
  text.head? ≠ some (.scalar '|') ∧ text.head? ≠ some (.scalar ')')

private theorem Starts.ends_eq_false {token : Token} (starts : Starts text token rest)
    (goesOn : GoesOn text) : (token.is '|' || token.is ')') = false := by
  rw [Bool.eq_false_iff, ne_eq, Bool.or_eq_true, starts.is_iff (by decide),
    starts.is_iff (by decide)]
  exact not_or.mpr goesOn

theorem passes_branch_escaped {behind : CodePoints} {token : Token} {fuel : Nat}
    (starts : Starts (.scalar '\\' :: rest) token behind)
    (reads : Passes (At behind known) (escape [] token.point) (Returns item (At text known)))
    (others : Passes (At text known) (branch fuel initial [] (item :: items)) after) :
    Passes (At (.scalar '\\' :: rest) known) (branch (fuel + 1) initial [] items) after := by
  have escaped : token.escaped = true := by
    cases starts with
    | plain noEscape => exact absurd rfl noEscape
    | escaped => rfl
  rw [branch]
  refine Passes.here_bind fun index => Passes.get_bind fun cursor facing =>
    Passes.at_cursor ?_ facing
  rw [facing.rest_eq, starts.tokensOf_eq]
  simp only [starts.ends_eq_false (by simp [GoesOn]), Bool.false_eq_true, if_false]
  refine (passes_take starts).andThen ?_
  simp only [escaped, List.contains_nil, Bool.false_and, Bool.false_eq_true, if_false, if_true]
  exact reads.andThen others

theorem passes_branch_bracket {fuel : Nat}
    (reads : Passes (At rest known) (bracket []) (Returns item (At text known)))
    (others : Passes (At text known) (branch fuel initial [] (item :: items)) after) :
    Passes (At (.scalar '[' :: rest) known) (branch (fuel + 1) initial [] items) after := by
  have starts : Starts (.scalar '[' :: rest) ⟨false, .scalar '['⟩ rest := .plain (by decide) rest
  rw [branch]
  refine Passes.here_bind fun index => Passes.get_bind fun cursor facing =>
    Passes.at_cursor ?_ facing
  rw [facing.rest_eq, starts.tokensOf_eq]
  simp (disch := decide) only [if_neg, if_pos]
  exact (passes_take starts).andThen (reads.andThen others)

theorem passes_branch_brace {fuel : Nat} (none_written : ¬ OpensCounts text)
    (others : Passes (At text known)
      (branch fuel initial [] (.one (.single .strict 0x7B) :: items)) after) :
    Passes (At (.scalar '\x7b' :: text) known) (branch (fuel + 1) initial [] items) after := by
  have starts : Starts (.scalar '\x7b' :: text) ⟨false, .scalar '\x7b'⟩ text :=
    .plain (by decide) text
  rw [branch]
  refine Passes.here_bind fun index => Passes.get_bind fun cursor facing =>
    Passes.at_cursor ?_ facing
  rw [facing.rest_eq, starts.tokensOf_eq]
  simp (disch := decide) only [if_neg, if_pos]
  exact (passes_take starts).andThen ((passes_counts_none none_written).andThen others)

private theorem passes_branch_counts {fuel : Nat} {counts : Counts}
    (reads : Passes (At rest known) counts? (Returns (some counts) (At text known)))
    (others : ∀ index, Passes (At text known)
      (do let items ← repeatLast counts index items; branch fuel initial [] items) after) :
    Passes (At (.scalar '\x7b' :: rest) known) (branch (fuel + 1) initial [] items) after := by
  have starts : Starts (.scalar '\x7b' :: rest) ⟨false, .scalar '\x7b'⟩ rest :=
    .plain (by decide) rest
  rw [branch]
  refine Passes.here_bind fun index => Passes.get_bind fun cursor facing =>
    Passes.at_cursor ?_ facing
  rw [facing.rest_eq, starts.tokensOf_eq]
  simp (disch := decide) only [if_neg, if_pos]
  exact (passes_take starts).andThen (reads.andThen (others index))

private theorem passes_branch_sign {fuel : Nat} {c : Char} {counts : Counts}
    (sign : c ∈ ['*', '+', '?'])
    (counts_eq : quantifier? ⟨false, .scalar c⟩ = some counts)
    (others : ∀ index, Passes (At text known)
      (do let items ← repeatLast counts index items; branch fuel initial [] items) after) :
    Passes (At (.scalar c :: text) known) (branch (fuel + 1) initial [] items) after := by
  have starts : Starts (.scalar c :: text) ⟨false, .scalar c⟩ text := by
    refine .plain ?_ text
    rintro ⟨⟩
    revert sign
    decide
  rw [branch]
  refine Passes.here_bind fun index => Passes.get_bind fun cursor facing =>
    Passes.at_cursor ?_ facing
  rw [facing.rest_eq, starts.tokensOf_eq]
  simp only [List.mem_cons, List.not_mem_nil, or_false] at sign
  rcases sign with rfl | rfl | rfl
  all_goals
    simp (disch := decide) only [if_neg]
    rw [counts_eq]
    exact (passes_take starts).andThen (others index)

/-- A character that opens no construct and is no quantifier stands for itself, for all characters
or for a place. -/
theorem passes_branch_simple {fuel : Nat} (point : CodePoint)
    (ordinary : ∀ c ∈ ['\\', '*', '+', '?', '\x7b', '[', '|', '(', ')'], point ≠ .scalar c)
    (others : Passes (At text known)
      (branch fuel initial [] (simple [] ⟨false, point⟩ :: items)) after) :
    Passes (At (point :: text) known) (branch (fuel + 1) initial [] items) after := by
  simp only [List.forall_mem_cons] at ordinary
  obtain ⟨noEscape, noStar, noPlus, noQuestion, noBrace, noBracket, noBar, noGroup, noEnd, -⟩ :=
    ordinary
  have starts := Starts.plain noEscape text
  have is_eq {c : Char} (other : point ≠ .scalar c) : Token.is ⟨false, point⟩ c = false := by
    simpa [Token.is] using other
  rw [branch]
  refine Passes.here_bind fun index => Passes.get_bind fun cursor facing =>
    Passes.at_cursor ?_ facing
  rw [facing.rest_eq, starts.tokensOf_eq]
  simp only [is_eq noBar, is_eq noEnd, is_eq noBracket, is_eq noGroup, is_eq noBrace, quantifier?,
    is_eq noQuestion, is_eq noStar, is_eq noPlus, List.contains_nil, Bool.false_and, Bool.or_self,
    Bool.false_eq_true, if_false]
  exact (passes_take starts).andThen others

theorem simple_of_ordinary {point : CodePoint} (ordinary : ∀ c ∈ signs, point ≠ .scalar c) :
    simple [] ⟨false, point⟩ = .one (.single .strict point.number) := by
  have is_eq {c : Char} (sign : c ∈ signs) : Token.is ⟨false, point⟩ c = false := by
    simpa [Token.is] using ordinary c sign
  have dot : '.' ∈ signs := by decide
  have caret : '^' ∈ signs := by decide
  have dollar : '$' ∈ signs := by decide
  simp only [simple, is_eq dot, is_eq caret, is_eq dollar, Bool.false_eq_true, if_false]
  rfl

/-! ### Groups -/

private theorem passes_takeName {problem : Problem} {fuel : Nat} {taken name : CodePoints}
    (letters : ∀ point ∈ name, point ≠ .scalar '\\' ∧ point ≠ .scalar '>')
    (nonempty : taken ++ name ≠ []) (enough : name.length < fuel) :
    Passes (At (name ++ .scalar '>' :: text) known) (takeName '>' problem fuel taken)
      (Returns (taken ++ name) (At text known)) := by
  obtain ⟨fuel, rfl⟩ := Nat.exists_eq_add_of_lt enough
  induction name generalizing taken with
  | nil =>
      rw [List.append_nil] at nonempty ⊢
      rw [takeName]
      refine (passes_take (.plain (by decide) text)).andThen ?_
      rw [List.isEmpty_eq_false_iff.mpr nonempty]
      exact .returns taken
  | cons point name induction =>
      obtain ⟨⟨noEscape, goesOn⟩, others⟩ := List.forall_mem_cons.mp letters
      have inside : (!Token.is ⟨false, point⟩ '>') = true := by simpa [Token.is] using goesOn
      have appended : taken ++ point :: name = (taken ++ [point]) ++ name := by simp
      rw [List.length_cons, takeName]
      refine (passes_take (.plain noEscape _)).andThen ?_
      simp only [inside, if_true]
      rw [appended] at nonempty ⊢
      rw [Nat.add_right_comm]
      exact induction others nonempty (by omega)

private theorem passes_groupName {name : CodePoints} (identifies : name.isIdentifier = true) :
    Passes (At (name ++ .scalar '>' :: text) known) (groupName '>')
      (Returns name (At text known)) := by
  obtain ⟨whole, count⟩ :=
    IsWhole.of_forall name fun point member => (ne_of_isIdentifier identifies member).1
  have nonempty : [] ++ name ≠ [] := by
    rintro rfl
    cases identifies
  have taken : Passes (At (name ++ .scalar '>' :: text) known) (nameUpTo '>' .unnamedGroup)
      (Returns name (At text known)) := by
    refine passes_remaining.andThen
      (passes_takeName (fun _ => ne_of_isIdentifier identifies) nonempty ?_)
    rw [whole.tokensOf_append, List.length_append, count]
    omega
  refine taken.andThen ?_
  rw [if_pos identifies]
  exact .returns name

private theorem passes_openGroup_named {name : CodePoints} (fresh : name ∉ known) :
    Passes (At text known) (openGroup [] (some name)) fun found cursor =>
      (∃ number : Option Nat, found = .body [] (number.elim .plain .numbered)) ∧
        At text (name :: known) cursor := by
  intro cursor facing
  have unknown := facing.named name fresh
  refine ⟨.body [] (.numbered (cursor.groups + 1)),
    { cursor with groups := cursor.groups + 1, names := (name, cursor.groups + 1) :: cursor.names },
    ?_, ⟨some (cursor.groups + 1), rfl⟩, { facing with named := ?_ }⟩
  · simp [openGroup, unknown, StateT.run_bind]
    rfl
  · intro other unknown
    rw [List.mem_cons, not_or] at unknown
    rw [List.lookup_cons, beq_eq_false_iff_ne.mpr unknown.1]
    exact facing.named other unknown.2

/-- What opens a group is read. -/
theorem passes_opening (mark : GroupMark) {tail : CodePoints}
    (written_eq : mark.written = .scalar '(' :: tail)
    (noMark : text.head? ≠ some (.scalar '?')) (fresh : ∀ name ∈ mark.names, name ∉ known) :
    Passes (At (tail ++ text) known) (opening []) fun found cursor =>
      (∃ number : Option Nat, found = .body [] (number.elim .plain .numbered)) ∧
        At text (mark.names ++ known) cursor := by
  refine Passes.here_bind fun index => ?_
  cases mark with
  | plain =>
      obtain rfl : [] = tail := (List.cons.inj written_eq).2
      refine (passes_accept_not (by decide) noMark).andThen ?_
      intro cursor facing
      refine ⟨_, _, rfl, ⟨some (cursor.groups + 1), rfl⟩, ?_⟩
      exact { facing with }
  | silent =>
      obtain rfl : [.scalar '?', .scalar ':'] = tail := (List.cons.inj written_eq).2
      refine (passes_accept (by decide)).andThen ?_
      refine (passes_take (.plain (by decide) text)).andThen ?_
      exact .pure fun cursor facing => ⟨⟨none, rfl⟩, facing⟩
  | named name identifies =>
      obtain rfl : [.scalar '?', .scalar 'P', .scalar '<'] ++ name ++ [.scalar '>'] = tail :=
        (List.cons.inj written_eq).2
      rw [List.append_assoc, List.append_assoc]
      refine (passes_accept (by decide)).andThen ?_
      refine (passes_take (.plain (by decide) _)).andThen ?_
      refine (passes_accept (by decide)).andThen ((passes_groupName identifies).andThen ?_)
      exact passes_openGroup_named (fresh name (List.mem_singleton_self name))

private theorem passes_close (number : Option Nat) (body : Pattern) :
    Passes (At text known) (Enclosure.close body (number.elim .plain .numbered))
      (Returns (.group number body) (At text known)) := by
  cases number with
  | none => exact .returns _
  | some number =>
      exact Passes.modify_bind (fun cursor facing => { facing with }) (.returns _)

theorem passes_branch_group {fuel : Nat} {enclosed : CodePoints} {inside outside : List CodePoints}
    {IsBody : Pattern → Prop}
    (opens : Passes (At rest known) (opening []) fun found cursor =>
      (∃ number : Option Nat, found = .body [] (number.elim .plain .numbered)) ∧
        At enclosed inside cursor)
    (body : Passes (At enclosed inside) (alternatives fuel false (some [])) fun pattern cursor =>
      IsBody pattern ∧ At (.scalar ')' :: text) outside cursor)
    (others : ∀ number pattern, IsBody pattern →
      Passes (At text outside) (branch fuel initial [] (.group number pattern :: items)) after) :
    Passes (At (.scalar '(' :: rest) known) (branch (fuel + 1) initial [] items) after := by
  have starts : Starts (.scalar '(' :: rest) ⟨false, .scalar '('⟩ rest := .plain (by decide) rest
  rw [branch]
  refine Passes.here_bind fun index => Passes.get_bind fun cursor facing =>
    Passes.at_cursor ?_ facing
  rw [facing.rest_eq, starts.tokensOf_eq]
  simp (disch := decide) only [if_neg, if_pos]
  refine (passes_take starts).andThen (Passes.get_bind fun entered facing =>
    Passes.at_cursor (opens.bind fun found => .of_and ?_) facing)
  rintro ⟨number, rfl⟩
  refine body.bind fun pattern => .of_and fun isBody => ?_
  refine Passes.modify_bind (fun cursor facing => { facing with })
    ((passes_accept (by decide)).andThen ?_)
  simp only [Bool.not_true, Bool.false_eq_true, if_false]
  exact (passes_close number pattern).andThen (others number pattern isBody)

/-! ### Quantifiers -/

/-- A text does not go on with what would change the manner of a quantifier. -/
def KeepsManner (text : CodePoints) : Prop :=
  text.head? ≠ some (.scalar '?') ∧ text.head? ≠ some (.scalar '+')

private theorem passes_manner (quantifier : Quantifier) (keeps : KeepsManner text) :
    Passes (At ((if quantifier.isLazy then [.scalar '?'] else []) ++ text) known) manner
      (Returns quantifier.manner (At text known)) := by
  unfold Quantifier.manner
  cases quantifier.isLazy with
  | true => exact (passes_accept (by decide)).andThen (.returns _)
  | false =>
      exact (passes_accept_not (by decide) keeps.1).andThen
        ((passes_accept_not (by decide) keeps.2).andThen (.returns _))

/-- A pattern that a quantifier may follow. -/
inductive IsRepeatable : Pattern → Prop where
  /-- A single character. -/
  | one (cls : CharClass) : IsRepeatable (.one cls)
  /-- A group. -/
  | group (number : Option Nat) (body : Pattern) : IsRepeatable (.group number body)

private theorem passes_repeatLast (repeatable : IsRepeatable item) (quantifier : Quantifier)
    (index : Nat)
    (keeps : KeepsManner text) :
    Passes (At ((if quantifier.isLazy then [.scalar '?'] else []) ++ text) known)
      (repeatLast ⟨quantifier.repetition.least, quantifier.repetition.most⟩ index (item :: items))
      (Returns (quantified item (some quantifier) :: items) (At text known)) := by
  cases repeatable with
  | one | group => exact (passes_manner quantifier keeps).andThen (.returns _)

/-- A quantifier repeats the item before it. -/
theorem passes_branch_quantifier {fuel : Nat} (repeatable : IsRepeatable item)
    (quantifier : Quantifier) (keeps : KeepsManner text)
    (others : Passes (At text known)
      (branch fuel initial [] (quantified item (some quantifier) :: items)) after) :
    Passes (At (quantifierWritten (some quantifier) ++ text) known)
      (branch (fuel + 1) initial [] (item :: items)) after := by
  have repeated (index : Nat) : Passes
      (At ((if quantifier.isLazy then [.scalar '?'] else []) ++ text) known)
      (do
        let items ←
          repeatLast ⟨quantifier.repetition.least, quantifier.repetition.most⟩ index (item :: items)
        branch fuel initial [] items) after :=
    (passes_repeatLast repeatable quantifier index keeps).andThen others
  rw [quantifierWritten, List.append_assoc]
  revert repeated
  cases quantifier.repetition with
  | star => exact passes_branch_sign (by decide) rfl
  | plus => exact passes_branch_sign (by decide) rfl
  | question => exact passes_branch_sign (by decide) rfl
  | exactly count =>
      rw [Repetition.written, List.cons_append, List.cons_append, List.append_assoc]
      exact passes_branch_counts (passes_counts_exactly count)
  | atLeast least =>
      rw [Repetition.written, List.cons_append, List.cons_append, List.append_assoc]
      exact passes_branch_counts passes_counts_atLeast
  | upTo least most ordered =>
      rw [Repetition.written, List.cons_append, List.cons_append, List.cons_append,
        List.append_assoc, List.append_assoc]
      exact passes_branch_counts (passes_counts_upTo ordered)

end Items

end Parser
end Pattern
end DiscoveryFiles
