import DiscoveryFiles.Proofs.Json.Derivation
import DiscoveryFiles.Proofs.Json.Nesting

/-!
# The limits of reading

The reader stops at one of its limits only where a text nests as deep as the reader allows, or where
an integer literal with too many digits stands.  A text without such a place is read exactly if the
grammar derives it.
-/

namespace DiscoveryFiles
namespace Json

/-- Where the reader may stop at a limit of its own. -/
inductive Stops (limit : Nat) (content : Text) : Parser.Failure → Prop where
  /-- In front of a bracket or brace that so many others are around. -/
  | deep {front back : Text} {c : Char} {container : Container}
      (shape : content = front ++ c :: back) (opens : c = '[' ∨ c = '\x7b')
      (scanned : scan front = ⟨.outside, limit⟩) : Stops limit content (.tooDeep container)
  /-- At an integer literal with too many digits. -/
  | long {digits : Text} (literal : IntegerLiteral content digits)
      (many : digitLimit < digits.length) :
      Stops limit content (.tooManyDigits digits.length)

namespace Parser

/-! ## Failures that are no limits -/

private theorem before_eq_error_iff {point : CodePoint} {outcome : Outcome CodePoints}
    {failure : Failure} : before point outcome = .error failure ↔ outcome = .error failure := by
  cases outcome with
  | error found => rfl
  | ok result => simp [before]

private theorem not_isLimit_of_stringBody {opening text : Text} {failure : Failure}
    (failed : stringBody opening text = .error failure) : ¬failure.IsLimit := by
  fun_induction stringBody opening text with
  | case1 | case3 | case5 | case6 | case8 | case9 =>
      cases failed
      exact id
  | case2 => cases failed
  | case4 _ _ _ _ _ _ _ _ induction | case7 _ _ _ _ _ _ induction
  | case10 _ _ _ _ _ _ _ _ induction => exact induction (before_eq_error_iff.mp failed)

private theorem not_isLimit_of_string {text : Text} {failure : Failure}
    (failed : string text = .error failure) : ¬failure.IsLimit := by
  rw [string] at failed
  split at failed
  · cases failed
  next body_eq =>
    cases failed
    exact not_isLimit_of_stringBody body_eq

private theorem not_isLimit_of_memberName {text : Text} {failure : Failure}
    (failed : memberName text = .error failure) : ¬failure.IsLimit := by
  rw [memberName.eq_def] at failed
  split at failed
  · split at failed
    next string_eq =>
      cases failed
      exact not_isLimit_of_string string_eq
    · split at failed
      · cases failed
      · cases failed
        exact id
  · cases failed
    exact id

/-! ## Integers with too many digits -/

private theorem takeWhile_isDigit_ne_nil {digits : Text} (plain : Digits digits) (rest : Text) :
    (digits ++ rest).takeWhile isDigit ≠ [] := by
  obtain ⟨c, others, rfl, digit⟩ := plain.exists_cons
  rw [List.cons_append, List.takeWhile_cons_of_pos digit]
  exact List.cons_ne_nil _ _

/-- Where neither digits nor a fraction nor an exponent are read, a numeral does not go on. -/
theorem not_goesOn {text : Text} (ends : EndsDigits text)
    (noFraction : (fractionPart text).1 = none) (noExponent : (exponentPart text).1 = none) :
    ¬GoesOn text := by
  rintro ⟨part, rest, rfl, written, plain | ⟨places, fractional⟩ | ⟨power, exponential⟩⟩
  · obtain ⟨c, others, rfl, digit⟩ := plain.exists_cons
    rw [ends c rfl] at digit
    cases digit
  · cases fractional with
    | absent => exact written rfl
    | present plain =>
        have some_taken := takeWhile_isDigit_ne_nil plain rest
        simp [fractionPart, some_taken] at noFraction
  · cases exponential with
    | absent => exact written rfl
    | unsigned marks plain =>
        have some_taken := takeWhile_isDigit_ne_nil plain rest
        simp [exponentPart, exponentSign_of_digits plain, marks, some_taken] at noExponent
    | positive marks plain | negative marks plain =>
        have some_taken := takeWhile_isDigit_ne_nil plain rest
        simp [exponentPart, exponentSign, marks, some_taken] at noExponent

private theorem endsDigits_of_wholePart? {text whole rest : Text}
    (taken : wholePart? text = some (whole, rest)) (long : 1 < whole.length) :
    EndsDigits rest := by
  rw [wholePart?.eq_def] at taken
  split at taken
  · cases taken
  next c others =>
    split at taken
    · cases taken
      exact absurd long (Nat.lt_irrefl 1)
    · split at taken
      · cases taken
        intro d here
        have stopped := List.head?_dropWhile_not isDigit others
        rw [Option.mem_def.mp here] at stopped
        simpa using stopped
      · cases taken

private theorem fractionPart_of_none {text : Text} (noFraction : (fractionPart text).1 = none) :
    (fractionPart text).2 = text := by
  obtain ⟨used, -, fraction_iff, text_eq⟩ := exists_fractionText text
  rw [fraction_iff.mp noFraction, List.nil_append] at text_eq
  exact text_eq.symm

/-- Where a numeral without a value is taken off a text, a long integer literal stands. -/
theorem exists_integer_of_numeral? {text rest : Text} {numeral : Numeral} {failure : Failure}
    (taken : numeral? text = some (numeral, rest)) (failed : numeral.value = .error failure) :
    ∃ sign digits back negative, text = sign ++ (digits ++ back) ∧ SignText sign negative ∧
      WholeText digits ∧ ¬GoesOn back ∧ digitLimit < digits.length ∧
      failure = .tooManyDigits digits.length := by
  by_cases integral : numeral.fraction = none ∧ numeral.exponent = none
  · obtain ⟨negative, whole, fraction, exponent⟩ := numeral
    obtain ⟨rfl, rfl⟩ := integral
    rw [value_of_integer] at failed
    split at failed
    next many =>
      cases failed
      obtain ⟨sign, signed, text_eq⟩ := exists_signText text
      simp only [numeral?] at taken
      split at taken
      · cases taken
      next digits back whole_eq =>
        simp only [Option.some.injEq, Prod.mk.injEq, Numeral.mk.injEq] at taken
        obtain ⟨⟨-, rfl, noFraction, noExponent⟩, -⟩ := taken
        rw [fractionPart_of_none noFraction] at noExponent
        have long : 1 < digits.length := Nat.lt_trans (by decide) many
        obtain ⟨written, behind_eq⟩ := wholeText_of_wholePart? whole_eq
        exact ⟨sign, digits, back, _, behind_eq ▸ text_eq, signed, written,
          not_goesOn (endsDigits_of_wholePart? whole_eq long) noFraction noExponent, many, rfl⟩
    · cases failed
  · rw [value_of_double integral] at failed
    cases failed

private theorem exists_integer_of_atom {text : Text} {failure : Failure}
    (failed : atom text = .error failure) (limit : failure.IsLimit) :
    ∃ sign digits back negative, text = sign ++ (digits ++ back) ∧ SignText sign negative ∧
      WholeText digits ∧ ¬GoesOn back ∧ digitLimit < digits.length ∧
      failure = .tooManyDigits digits.length := by
  rw [atom] at failed
  split at failed
  · cases failed
  · split at failed
    · cases failed
      exact limit.elim
    next numeral_eq =>
      split at failed
      · cases failed
      next value_eq =>
        cases failed
        exact exists_integer_of_numeral? numeral_eq value_eq

/-! ## Failures that are limits -/

/-- What is known at a place of a text that the readers have come to. -/
structure Reached (content front text : Text) (depth : Nat) : Prop where
  /-- The text goes on at the place. -/
  shape : content = front ++ text
  /-- The place is outside strings, with so many containers around it. -/
  scanned : scan front = ⟨.outside, depth⟩

variable {content front text : Text} {levels : Nat}

/-- Behind something balanced as many containers are around as before. -/
theorem Reached.past {used rest : Text} (reached : Reached content front (used ++ rest) levels)
    (balanced : Balanced used) : Reached content (front ++ used) rest levels := by
  refine ⟨by rw [reached.shape, List.append_assoc], ?_⟩
  rw [scan, over_append, ← scan, reached.scanned, balanced]

/-- Behind an opening bracket or brace, one container more is around. -/
theorem Reached.into {c : Char} {rest : Text} (opens : c = '[' ∨ c = '\x7b')
    (reached : Reached content front (c :: rest) levels) :
    Reached content (front ++ [c]) rest (levels + 1) := by
  refine ⟨by rw [reached.shape, List.append_assoc, List.singleton_append], ?_⟩
  rw [scan, over_append, ← scan, reached.scanned]
  obtain rfl | rfl := opens <;> rfl

/-- The readers with some fuel stop at a limit only where the text has such a place. -/
structure StopsRightly (content : Text) (fuel : Nat) : Prop where
  /-- At the start of a value. -/
  value : ∀ {front text levels depth failure}, Reached content front text levels →
    OpensValue front → Parser.value fuel depth text = .error failure → failure.IsLimit →
    Stops (levels + depth) content failure
  /-- At the start of an item. -/
  items : ∀ {front text levels depth failure}, Reached content front text levels →
    OpensValue front → Parser.items fuel depth text = .error failure → failure.IsLimit →
    Stops (levels + depth) content failure
  /-- At the start of a member. -/
  members : ∀ {front text levels depth failure}, Reached content front text levels →
    Parser.members fuel depth text = .error failure → failure.IsLimit →
    Stops (levels + depth) content failure

section Step

variable {fuel : Nat} (below : StopsRightly content fuel) {depth : Nat} {failure : Failure}

include below

private theorem stops_value_succ (reached : Reached content front text levels)
    (opens : OpensValue front)
    (failed : Parser.value (fuel + 1) depth text = .error failure) (limit : failure.IsLimit) :
    Stops (levels + depth) content failure := by
  rw [Parser.value.eq_def] at failed
  simp only at failed
  split at failed
  · split at failed
    · cases failed
    next string_eq =>
      cases failed
      exact absurd limit (not_isLimit_of_string string_eq)
  next inner =>
    split at failed
    · cases failed
      exact .deep reached.shape (.inl rfl) reached.scanned
    next depth =>
      obtain ⟨blanks, blank, inner_eq⟩ := exists_blanks inner
      split at failed
      · cases failed
      next =>
        split at failed
        · cases failed
        next items_eq =>
          cases failed
          have inside := reached.into (.inl rfl)
          rw [inner_eq] at inside
          have inner_opens : OpensValue (front ++ ['['] ++ blanks) := by
            rw [List.append_assoc]
            exact .behind (.inl rfl) blank
          rw [← Nat.succ_add_eq_add_succ]
          exact below.items (inside.past blank.balanced) inner_opens items_eq limit
  next inner =>
    split at failed
    · cases failed
      exact .deep reached.shape (.inr rfl) reached.scanned
    next depth =>
      obtain ⟨blanks, blank, inner_eq⟩ := exists_blanks inner
      split at failed
      · cases failed
      next =>
        split at failed
        · cases failed
        next members_eq =>
          cases failed
          have inside := reached.into (.inr rfl)
          rw [inner_eq] at inside
          rw [← Nat.succ_add_eq_add_succ]
          exact below.members (inside.past blank.balanced) members_eq limit
  next =>
    obtain ⟨sign, digits, back, negative, rfl, signed, whole, ends, many, rfl⟩ :=
      exists_integer_of_atom failed limit
    refine .long ?_ many
    rw [reached.shape]
    exact .literal (by rw [reached.scanned]) opens signed whole ends

omit below in
/-- Behind the comma that follows a value, the same containers are around as in front of it. -/
theorem exists_reached_behind {value : Json} {behind more : Text}
    (reached : Reached content front text levels)
    (taken : Parser.value fuel depth text = .ok (value, behind))
    (comma : skipBlank behind = ',' :: more) :
    ∃ further, Reached content further (skipBlank more) levels ∧ OpensValue further := by
  obtain ⟨used, inside, rfl⟩ := (takesDerivable fuel).value taken
  obtain ⟨blanks, blank, behind_eq⟩ := exists_blanks behind
  obtain ⟨gap, spaced, more_eq⟩ := exists_blanks more
  rw [comma] at behind_eq
  have passed : used ++ behind = (used ++ (blanks ++ ',' :: gap)) ++ skipBlank more := by
    rw [behind_eq, List.append_assoc, List.append_assoc, List.cons_append, ← more_eq]
  have balanced : Balanced (used ++ (blanks ++ ',' :: gap)) :=
    inside.balanced.append (blank.balanced.append (spaced.balanced.cons (by decide)))
  rw [passed] at reached
  refine ⟨_, reached.past balanced, ?_⟩
  rw [← List.append_assoc, ← List.append_assoc]
  exact .behind (.inr (.inl rfl)) spaced

private theorem stops_items_succ (reached : Reached content front text levels)
    (opens : OpensValue front)
    (failed : Parser.items (fuel + 1) depth text = .error failure) (limit : failure.IsLimit) :
    Stops (levels + depth) content failure := by
  rw [Parser.items] at failed
  split at failed
  next value_eq =>
    cases failed
    exact below.value reached opens value_eq limit
  next value_eq =>
    split at failed
    · cases failed
    next comma =>
      split at failed
      · cases failed
      next items_eq =>
        cases failed
        obtain ⟨further, behind, opens⟩ := exists_reached_behind reached value_eq comma
        exact below.items behind opens items_eq limit
    · cases failed
      exact limit.elim

private theorem stops_members_succ (reached : Reached content front text levels)
    (failed : Parser.members (fuel + 1) depth text = .error failure) (limit : failure.IsLimit) :
    Stops (levels + depth) content failure := by
  rw [Parser.members] at failed
  split at failed
  next name_eq =>
    cases failed
    exact absurd limit (not_isLimit_of_memberName name_eq)
  next name inner name_eq =>
    obtain ⟨key, padding, gap, quoted, padded, spaced, text_eq⟩ := exists_memberName name_eq
    have passed : text = (key ++ (padding ++ ':' :: gap)) ++ inner := by
      simp [text_eq]
    have balanced : Balanced (key ++ (padding ++ ':' :: gap)) :=
      quoted.balanced.append (padded.balanced.append (spaced.balanced.cons (by decide)))
    have opens : OpensValue (front ++ (key ++ (padding ++ ':' :: gap))) := by
      rw [← List.append_assoc, ← List.append_assoc]
      exact .behind (.inr (.inr rfl)) spaced
    rw [passed] at reached
    have inside := reached.past balanced
    split at failed
    next value_eq =>
      cases failed
      exact below.value inside opens value_eq limit
    next value_eq =>
      split at failed
      · cases failed
      next comma =>
        split at failed
        · cases failed
        next members_eq =>
          cases failed
          obtain ⟨further, behind, -⟩ := exists_reached_behind inside value_eq comma
          exact below.members behind members_eq limit
      · cases failed
        exact limit.elim

end Step

private theorem stopsRightly (content : Text) (fuel : Nat) : StopsRightly content fuel := by
  induction fuel with
  | zero =>
      constructor
      · intro front text levels depth failure _ _ failed limit
        cases failed
        exact limit.elim
      · intro front text levels depth failure _ _ failed limit
        cases failed
        exact limit.elim
      · intro front text levels depth failure _ failed limit
        cases failed
        exact limit.elim
  | succ fuel below =>
      exact ⟨stops_value_succ below, stops_items_succ below, stops_members_succ below⟩

/-- Reading a whole text stops at a limit only where the text has such a place. -/
theorem stops_of_document {content : Text} {failure : Failure}
    (failed : document content = .error failure) (limit : failure.IsLimit) :
    Stops depthLimit content failure := by
  rw [document] at failed
  split at failed
  · cases failed
    exact limit.elim
  · obtain ⟨blanks, blank, content_eq⟩ := exists_blanks content
    have reached : Reached content blanks (skipBlank content) 0 :=
      ⟨content_eq, blank.balanced 0⟩
    split at failed
    next value_eq =>
      cases failed
      rw [← Nat.zero_add depthLimit]
      exact (stopsRightly content _).value reached (.start blank) value_eq limit
    · split at failed
      · cases failed
      · cases failed
        exact limit.elim

end Parser

/-! ## Texts within the limits -/

/-- Behind a bracket or brace that so many others are around, one more is open. -/
theorem not_nestsBelow_of_opening {content front back : Text} {c : Char} {levels : Nat}
    (shape : content = front ++ c :: back) (opens : c = '[' ∨ c = '\x7b')
    (scanned : scan front = ⟨.outside, levels⟩) : ¬NestsBelow (levels + 1) content := by
  intro shallow
  have below := shallow (front ++ [c]) ⟨back, by rw [shape]; simp⟩
  have deeper : scan (front ++ [c]) = ⟨.outside, levels + 1⟩ := by
    rw [scan, over_append, ← scan, scanned]
    obtain rfl | rfl := opens <;> rfl
  rw [deeper] at below
  exact Nat.lt_irrefl _ below

/-- No limit is passed in a text that does not nest too deep and has no long integer literal. -/
theorem Stops.not_within {content : Text} {failure : Parser.Failure}
    (stops : Stops depthLimit content failure) (shallow : NestsBelow (depthLimit + 1) content)
    (short : HasShortIntegers digitLimit content) : False := by
  cases stops with
  | deep shape opens scanned => exact not_nestsBelow_of_opening shape opens scanned shallow
  | long literal many => exact Nat.not_lt.mpr (short _ literal) many

section Within

variable {content : Text} (shallow : NestsBelow (depthLimit + 1) content)
  (short : HasShortIntegers digitLimit content)

include shallow short

/-- Within the limits a text is read as a value exactly if the grammar derives it, with this
value. -/
theorem document_eq_ok_iff {value : Json} :
    Parser.document content = .ok value ↔ DocumentText content value := by
  refine ⟨Parser.documentText_of_document, fun written => ?_⟩
  rcases Parser.document_of_documentText written with read | ⟨failure, failed, limit⟩
  · exact read
  · exact ((Parser.stops_of_document failed limit).not_within shallow short).elim

/-- Within the limits a text is refused only for a fault at a place. -/
theorem exists_malformed {failure : Parser.Failure}
    (failed : Parser.document content = .error failure) :
    ∃ problem rest, failure = .malformed problem rest := by
  cases failure with
  | malformed problem rest => exact ⟨problem, rest, rfl⟩
  | tooDeep | tooManyDigits =>
      exact ((Parser.stops_of_document failed trivial).not_within shallow short).elim

end Within

end Json
end DiscoveryFiles
