import DiscoveryFiles.Proofs.Pattern.Whole

/-!
# Reading counts back

An opening brace starts counts exactly if counts are written behind it.
-/

namespace DiscoveryFiles
namespace Pattern
namespace Parser

variable {known : List CodePoints} {rest : CodePoints}

/-! ## Counts -/

section Counts

/-- The digits at the start of a text. -/
theorem exists_digits (text : CodePoints) :
    ∃ digits rest, text = digitsWritten digits ++ rest ∧ EndsRun isDigit rest := by
  induction text with
  | nil => exact ⟨[], [], rfl, by simp [EndsRun]⟩
  | cons point text induction =>
      by_cases isDigitAt : ∃ c, point = .scalar c ∧ isDigit c = true
      · obtain ⟨c, rfl, digit⟩ := isDigitAt
        obtain ⟨digits, rest, rfl, ends⟩ := induction
        obtain ⟨value, rfl⟩ := exists_digitLetter digit
        exact ⟨value :: digits, rest, rfl, ends⟩
      · refine ⟨[], point :: text, rfl, fun c head_eq => ?_⟩
        rw [List.head?_cons, Option.some.injEq] at head_eq
        rw [Bool.eq_false_iff]
        exact fun digit => isDigitAt ⟨c, head_eq, digit⟩

private theorem passes_takeDigits (digits : List (Fin 10)) {count : Nat}
    (few : digits.length ≤ count) (ends : EndsRun isDigit rest) :
    Passes (At (digitsWritten digits ++ rest) known) (takeUpTo isDigit count)
      (Returns (digitsWritten digits) (At rest known)) :=
  passes_takeUpTo rfl (fun digit => (digitLetter_isDigit digit).1) digits few (.inr ends)

private theorem passes_countOf (count : Count) :
    Passes (At rest known) (countOf (digitsWritten count.digits))
      (Returns count.number (At rest known)) := by
  have number_eq : numberIn 10 (digitsWritten count.digits) = count.number :=
    numberIn_digitsWritten count.digits
  have length_eq : (digitsWritten count.digits).length = count.digits.length := List.length_map _
  have short : ¬ digitLimit < (digitsWritten count.digits).length := by
    rw [length_eq]
    exact Nat.not_lt.mpr count.short
  have small : ¬ countLimit ≤ count.number := Nat.not_le.mpr count.small
  refine Passes.here_bind fun index => ?_
  rw [if_neg short, number_eq, if_neg small]
  exact .returns _

/-- A count that is left out counts as zero. -/
theorem passes_countOf_elim (count : Option Count) :
    Passes (At rest known) (countOf (countWritten count))
      (Returns (count.elim 0 Count.number) (At rest known)) := by
  cases count with
  | none => exact .returns 0
  | some count => exact passes_countOf count

/-- A cursor has as many tokens before it as the digits that it faces. -/
theorem At.length_digits_le {before text : CodePoints} {digits : List (Fin 10)} {cursor : Cursor}
    (facing : At (before ++ (digitsWritten digits ++ text)) known cursor) (whole : IsWhole before) :
    digits.length ≤ cursor.rest.length := by
  obtain ⟨digits_whole, count⟩ := isWhole_digitsWritten digits
  rw [facing.rest_eq, whole.tokensOf_append, digits_whole.tokensOf_append, List.length_append,
    List.length_append, count]
  omega

private theorem endsRun_cons {kind : Char → Bool} {c : Char} (other : kind c = false)
    (rest : CodePoints) :
    EndsRun kind (.scalar c :: rest) := by
  rintro _ ⟨⟩
  exact other

private theorem digitsWritten_isEmpty (count : Count) :
    (digitsWritten count.digits).isEmpty = false := by
  rw [List.isEmpty_eq_false_iff, digitsWritten, ne_eq, List.map_eq_nil_iff]
  exact count.nonempty

/-- No digit is a brace. -/
theorem head?_digits_ne_brace {digits : List (Fin 10)} {text : CodePoints}
    (open_text : digits = [] → text.head? ≠ some (.scalar '\x7d')) :
    ((digitsWritten digits ++ text).head? == some (.scalar '\x7d')) = false := by
  rw [beq_eq_false_iff_ne]
  cases digits with
  | nil => exact open_text rfl
  | cons digit digits =>
      have other : ∀ digit : Fin 10, digitLetter digit ≠ '\x7d' := by decide
      simp only [digitsWritten, List.map_cons, List.cons_append, List.head?_cons, ne_eq,
        Option.some.injEq, CodePoint.scalar.injEq]
      exact other digit

variable {least : Option Count}

theorem passes_counts_exactly (count : Count) :
    Passes (At (digitsWritten count.digits ++ .scalar '\x7d' :: rest) known) counts?
      (Returns (some ⟨count.number, some count.number⟩) (At rest known)) := by
  refine Passes.get_bind fun start facing => Passes.at_cursor ?_ facing
  refine (passes_isNext (by decide)).andThen ?_
  rw [head?_digits_ne_brace fun nothing => absurd nothing count.nonempty]
  refine (passes_takeDigits count.digits (facing.length_digits_le .nil)
    (endsRun_cons rfl _)).andThen ?_
  refine (passes_accept_not (by decide) (by simp)).andThen ?_
  refine (Passes.returns _).andThen ((passes_accept (by decide)).andThen ?_)
  simp only [if_true, digitsWritten_isEmpty, Bool.false_eq_true, if_false]
  refine (passes_countOf count).andThen ((passes_countOf count).andThen ?_)
  rw [if_neg (Nat.lt_irrefl _)]
  exact .returns _

theorem passes_counts_atLeast :
    Passes (At (countWritten least ++ .scalar ',' :: .scalar '\x7d' :: rest) known) counts?
      (Returns (some ⟨least.elim 0 Count.number, none⟩) (At rest known)) := by
  refine Passes.get_bind fun start facing => Passes.at_cursor ?_ facing
  refine (passes_isNext (by decide)).andThen ?_
  rw [countWritten, head?_digits_ne_brace fun _ => by simp]
  refine (passes_takeDigits _ (facing.length_digits_le .nil) (endsRun_cons rfl _)).andThen ?_
  refine (passes_accept (by decide)).andThen ?_
  refine (passes_takeDigits [] (Nat.zero_le _) (endsRun_cons rfl rest)).andThen ?_
  refine (passes_accept (by decide)).andThen ?_
  exact (passes_countOf_elim least).andThen (.returns _)

theorem passes_counts_upTo {most : Count}
    (ordered : ∀ count, least = some count → count.number ≤ most.number) :
    Passes (At (countWritten least ++ .scalar ',' ::
        (digitsWritten most.digits ++ .scalar '\x7d' :: rest)) known) counts?
      (Returns (some ⟨least.elim 0 Count.number, some most.number⟩) (At rest known)) := by
  have least_le : least.elim 0 Count.number ≤ most.number := by
    cases least with
    | none => exact Nat.zero_le _
    | some count => exact ordered count rfl
  refine Passes.get_bind fun start facing => Passes.at_cursor ?_ facing
  have further : At ((countWritten least ++ [.scalar ',']) ++
      (digitsWritten most.digits ++ .scalar '\x7d' :: rest)) known start := by
    simpa using facing
  have whole : IsWhole (countWritten least ++ [.scalar ',']) :=
    (isWhole_digitsWritten _).1.append (.plain (by decide))
  refine (passes_isNext (by decide)).andThen ?_
  rw [countWritten, head?_digits_ne_brace fun _ => by simp]
  refine (passes_takeDigits _ (facing.length_digits_le .nil) (endsRun_cons rfl _)).andThen ?_
  refine (passes_accept (by decide)).andThen ?_
  refine (passes_takeDigits most.digits (further.length_digits_le whole)
    (endsRun_cons rfl rest)).andThen ?_
  refine (passes_accept (by decide)).andThen ?_
  simp only [if_true, digitsWritten_isEmpty, Bool.false_eq_true, if_false]
  refine (passes_countOf_elim least).andThen ((passes_countOf most).andThen ?_)
  rw [if_neg (Nat.not_lt.mpr least_le)]
  exact .returns _

/-- A brace behind which no counts are written is no quantifier. -/
theorem passes_counts_none {text : CodePoints} (none_written : ¬ OpensCounts text) :
    Passes (At text known) counts? (Returns none (At text known)) := by
  refine Passes.get_bind fun start facing => Passes.at_cursor ?_ facing
  have back {between : CodePoints} : Passes (At between known) (do set start; return none)
      (Returns (none : Option Counts) (At text known)) :=
    fun _ _ => ⟨none, start, rfl, rfl, facing⟩
  obtain ⟨low, behind, rfl, ends⟩ := exists_digits text
  refine (passes_isNext (by decide)).andThen ?_
  split
  · exact .returns none
  next goesOn =>
    refine (passes_takeDigits low (facing.length_digits_le .nil) ends).andThen ?_
    by_cases comma : behind.head? = some (.scalar ',')
    · obtain ⟨rest, rfl⟩ := List.head?_eq_some_iff.mp comma
      obtain ⟨high, last, rfl, high_ends⟩ := exists_digits rest
      have further : At ((digitsWritten low ++ [.scalar ',']) ++ (digitsWritten high ++ last))
          known start := by
        simpa using facing
      have whole : IsWhole (digitsWritten low ++ [.scalar ',']) :=
        (isWhole_digitsWritten low).1.append (.plain (by decide))
      have unclosed : last.head? ≠ some (.scalar '\x7d') := by
        intro closed
        obtain ⟨rest, rfl⟩ := List.head?_eq_some_iff.mp closed
        exact none_written ⟨_, .inr ⟨low, high, rfl⟩, rest, by simp⟩
      refine (passes_accept (by decide)).andThen ?_
      refine (passes_takeDigits high (further.length_digits_le whole) high_ends).andThen ?_
      exact (passes_accept_not (by decide) unclosed).andThen back
    · have unclosed : behind.head? ≠ some (.scalar '\x7d') := by
        intro closed
        obtain ⟨rest, rfl⟩ := List.head?_eq_some_iff.mp closed
        refine none_written ⟨_, .inl ⟨low, ?_, rfl⟩, rest, by simp⟩
        rintro rfl
        exact goesOn rfl
      refine (passes_accept_not (by decide) comma).andThen ?_
      exact (Passes.returns _).andThen ((passes_accept_not (by decide) unclosed).andThen back)

end Counts

end Parser
end Pattern
end DiscoveryFiles
