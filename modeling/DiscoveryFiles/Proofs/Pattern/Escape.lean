import DiscoveryFiles.Proofs.Pattern.Rendering
import DiscoveryFiles.Proofs.Pattern.Whole

/-!
# Reading escapes and classes back

A character that is written with a backslash is found again, inside of classes and outside, and so
is a class with all of its parts.
-/

namespace DiscoveryFiles
namespace Pattern
namespace Parser

variable {known : List CodePoints} {text rest : CodePoints}

/-! ## Escapes -/

/-- What some characters write is read, before a text, by a step that is given their first token. -/
def ReadsBack {α : Type} (written text : CodePoints) (step : Token → Step α) (value : α) : Prop :=
  ∃ token tail, Starts (written ++ text) token (tail ++ text) ∧
    ∀ known, Passes (At (tail ++ text) known) (step token) (Returns value (At text known))

private theorem passes_hexEscape {mark : HexMark} {digits : List HexDigit}
    (width_eq : digits.length = mark.width) (inside : hexNumber digits ≤ 0x10FFFF) :
    Passes (At ((digits.map fun digit => .scalar digit.letter) ++ rest) known)
      (hexEscape mark.letter mark.width) (Returns (hexNumber digits) (At rest known)) := by
  have isHex_letter (digit : HexDigit) : isHex digit.letter = true := (hexLetter_isHex digit).1
  refine Passes.here_bind fun index => ?_
  refine (passes_takeUpTo rfl isHex_letter digits width_eq.le (.inl width_eq)).andThen ?_
  simp only [List.length_map, width_eq, numberIn_hex, ne_eq, not_true_eq_false, if_false,
    if_neg (Nat.not_lt.mpr inside)]
  exact .returns _

private theorem passes_characterEscape_hex {mark : HexMark} {digits : List HexDigit}
    (width_eq : digits.length = mark.width) (inside : hexNumber digits ≤ 0x10FFFF) :
    Passes (At ((digits.map fun digit => .scalar digit.letter) ++ rest) known)
      (characterEscape mark.letter) (Returns (hexNumber digits) (At rest known)) := by
  cases mark <;> exact passes_hexEscape width_eq inside

section Octal

variable {first : Fin 8} {others : List (Fin 8)}

private theorem octalLetter_unnamed (digit : Fin 8) :
    propertyEscape? [] (digitLetter digit) = none ∧
      anchorEscape? [] (digitLetter digit) = none ∧ controlEscape? (digitLetter digit) = none := by
  revert digit
  decide

/-- Up to two more octal digits are taken behind the first one. -/
theorem passes_octalEscape (few : others.length ≤ 2)
    (inside : octalNumber (first :: others) ≤ 0o377)
    (fits : others.length = 2 ∨ LacksOctal rest) :
    Passes (At ((others.map fun digit : Fin 8 => .scalar (digitLetter digit)) ++ rest) known)
      (octalEscape (digitLetter first))
      (Returns (octalNumber (first :: others)) (At rest known)) := by
  have number_eq := numberIn_octal (first :: others)
  rw [List.map_cons] at number_eq
  refine Passes.here_bind fun index => ?_
  refine (passes_takeUpTo rfl (fun digit : Fin 8 => (digitLetter_isOctal digit).1) others few
    (fits.imp_right endsRun_isOctal)).andThen ?_
  simp only [number_eq, if_neg (Nat.not_lt.mpr inside)]
  exact .returns _

/-- Three octal digits are no reference to a group. -/
theorem passes_referenceEscape {second third : Fin 8}
    (inside : octalNumber [first, second, third] ≤ 0o377) :
    Passes (At (.scalar (digitLetter second) :: .scalar (digitLetter third) :: rest) known)
      (referenceEscape [] (digitLetter first))
      (Returns (literal [] (octalNumber [first, second, third])) (At rest known)) := by
  have isOctal_letter (digit : Fin 8) : isOctal (digitLetter digit) = true :=
    (digitLetter_isOctal digit).1
  have octal : (isOctal (digitLetter first) && [CodePoint.scalar (digitLetter second)].any
      fun point => digitValue point < 8) = true := by
    simp [digitLetter_isOctal]
  have number_eq := numberIn_octal [first, second, third]
  simp only [List.map_cons, List.map_nil] at number_eq
  refine Passes.here_bind fun index => ?_
  refine (passes_takeUpTo rfl (fun digit => isDigit_of_isOctal (isOctal_letter digit)) [second]
    (Nat.le_refl 1) (.inl rfl)).andThen ?_
  simp only [List.map_cons, List.map_nil, octal, if_true]
  refine (passes_takeUpTo rfl isOctal_letter [third] (Nat.le_refl 1) (.inl rfl)).andThen ?_
  simp only [List.map_cons, List.map_nil, List.singleton_append, number_eq,
    if_neg (Nat.not_lt.mpr inside), List.isEmpty_cons, Bool.false_eq_true, if_false]
  exact .returns _

end Octal

/-! ### What follows an escape -/

private theorem lacksOctal_cons {c : Char} (other : ∀ digit : Fin 8, c ≠ digitLetter digit)
    (rest : CodePoints) : LacksOctal (.scalar c :: rest) := by
  intro digit head_eq
  rw [List.head?_cons, Option.some.injEq, CodePoint.scalar.injEq] at head_eq
  exact other digit head_eq

theorem fits_of_lacksOctal (lacks : LacksOctal text) (written : Escape) : written.Fits text := by
  cases written with
  | octal => exact .inr lacks
  | itself | control | hex => trivial

private theorem member_fits_of_lacksOctal (lacks : LacksOctal text) (member : Member) :
    member.Fits text := by
  cases member with
  | escape written => exact fits_of_lacksOctal lacks written
  | plain | backspace => trivial

private theorem part_fits_of_lacksOctal (lacks : LacksOctal text) (part : Part) :
    part.Fits text := by
  cases part with
  | single last | range _ last => exact member_fits_of_lacksOctal lacks last
  | category => trivial

/-- Whether a character is read on depends on the next character alone. -/
theorem fits_of_head? {written : Escape} (same : text.head? = rest.head?)
    (fits : written.Fits text) : written.Fits rest := by
  cases written with
  | octal => exact fits.imp_right fun lacks digit => same ▸ lacks digit
  | itself | control | hex => trivial

private theorem part_fits_of_head? {part : Part} (same : text.head? = rest.head?)
    (fits : part.Fits text) : part.Fits rest := by
  have last_fits {last : Member} (fits : last.Fits text) : last.Fits rest := by
    cases last with
    | escape written => exact fits_of_head? same fits
    | plain | backspace => trivial
  cases part with
  | single | range => exact last_fits fits
  | category => trivial

/-! ### Characters behind a backslash -/

private theorem isLetter_or_isDigit (c : Char) : (isLetter c || isDigit c) = c.isAlphanum := by
  have lower : ('a' ≤ c && c ≤ 'z') = c.isLower := rfl
  have upper : ('A' ≤ c && c ≤ 'Z') = c.isUpper := by
    rw [Bool.eq_iff_iff, Bool.and_eq_true, decide_eq_true_eq, decide_eq_true_eq]
    exact decide_eq_true_iff.symm
  have digit : isDigit c = c.isDigit := rfl
  have parts : c.isAlphanum = (c.isUpper || c.isLower || c.isDigit) := rfl
  rw [isLetter, lower, upper, digit, parts, Bool.or_comm c.isLower]

private theorem isDigit_of_not_alphanumeric {c : Char} (unnamed : c.isAlphanum = false) :
    isDigit c = false := by
  rw [← isLetter_or_isDigit, Bool.or_eq_false_iff] at unnamed
  exact unnamed.2

private theorem isOctal_of_not_alphanumeric {c : Char} (unnamed : c.isAlphanum = false) :
    isOctal c = false := by
  have notDigit := isDigit_of_not_alphanumeric unnamed
  rw [Bool.eq_false_iff] at notDigit ⊢
  exact mt isDigit_of_isOctal notDigit

private theorem escape_of_not_alphanumeric {c : Char} (unnamed : c.isAlphanum = false)
    (noBackslash : c ≠ '\\') :
    propertyEscape? [] c = none ∧ anchorEscape? [] c = none ∧ controlEscape? c = none := by
  refine ⟨?_, ?_, ?_⟩
  · unfold propertyEscape?
    split <;> first | rfl | cases unnamed
  · unfold anchorEscape?
    split <;> first | rfl | cases unnamed
  · unfold controlEscape?
    split <;> first | rfl | exact absurd rfl noBackslash | cases unnamed

private theorem characterEscape_of_not_alphanumeric {c : Char} (unnamed : c.isAlphanum = false) :
    characterEscape c = pure c.toNat := by
  unfold characterEscape
  split
  · cases unnamed
  · cases unnamed
  · cases unnamed
  · cases unnamed
  · rw [isLetter_or_isDigit, unnamed]
    rfl

/-- What is read behind a backslash inside of a class. -/
theorem readsBack_escapeInClass (written : Escape) (fits : written.Fits text) :
    ReadsBack (.scalar '\\' :: written.body) text (classItem []) (singlePart written.number) := by
  cases written with
  | itself point unnamed =>
      refine ⟨⟨true, point⟩, [], .escaped point text, fun known => ?_⟩
      cases point with
      | surrogate offset => exact .returns _
      | scalar c =>
          by_cases backslash : c = '\\'
          · subst backslash
            exact .returns _
          · obtain ⟨property_eq, -, control_eq⟩ := escape_of_not_alphanumeric unnamed backslash
            have notOctal : isOctal c = false := isOctal_of_not_alphanumeric unnamed
            simp only [classItem, classEscape, control_eq, property_eq, notOctal, if_true,
              Bool.false_eq_true, if_false, characterEscape_of_not_alphanumeric unnamed]
            exact .returns _
  | control letter =>
      refine ⟨⟨true, .scalar letter.letter⟩, [], .escaped _ text, fun known => ?_⟩
      cases letter <;> exact .returns _
  | hex mark digits width_eq inside =>
      refine ⟨⟨true, .scalar mark.letter⟩, _, .escaped _ _, fun known => ?_⟩
      cases mark <;> exact (passes_characterEscape_hex width_eq inside).andThen (.returns _)
  | octal first others few inside =>
      refine ⟨⟨true, .scalar (digitLetter first)⟩, _, .escaped _ _, fun known => ?_⟩
      obtain ⟨property_eq, -, control_eq⟩ := octalLetter_unnamed first
      simp only [classItem, classEscape, control_eq, property_eq, (digitLetter_isOctal first).1,
        if_true]
      exact (passes_octalEscape few inside fits).andThen (.returns _)

/-- What is read behind a backslash outside of classes. -/
theorem readsBack_escape (written : Escape) (noReference : written.IsNoReference)
    (fits : written.Fits text) :
    ReadsBack (.scalar '\\' :: written.body) text (fun token => escape [] token.point)
      (literal [] written.number) := by
  cases written with
  | itself point unnamed =>
      refine ⟨⟨true, point⟩, [], .escaped point text, fun known => ?_⟩
      cases point with
      | surrogate offset => exact .returns _
      | scalar c =>
          by_cases backslash : c = '\\'
          · subst backslash
            exact .returns _
          · obtain ⟨property_eq, anchor_eq, control_eq⟩ :=
              escape_of_not_alphanumeric unnamed backslash
            have notDigit : isDigit c = false := isDigit_of_not_alphanumeric unnamed
            have notZero : c ≠ '0' := by
              rintro rfl
              cases unnamed
            simp only [escape, control_eq, property_eq, anchor_eq, notDigit, if_neg notZero,
              Bool.false_eq_true, if_false, characterEscape_of_not_alphanumeric unnamed]
            exact .returns _
  | control letter =>
      refine ⟨⟨true, .scalar letter.letter⟩, [], .escaped _ text, fun known => ?_⟩
      cases letter <;> exact .returns _
  | hex mark digits width_eq inside =>
      refine ⟨⟨true, .scalar mark.letter⟩, _, .escaped _ _, fun known => ?_⟩
      cases mark <;> exact (passes_characterEscape_hex width_eq inside).andThen (.returns _)
  | octal first others few inside =>
      refine ⟨⟨true, .scalar (digitLetter first)⟩, _, .escaped _ _, fun known => ?_⟩
      obtain ⟨property_eq, anchor_eq, control_eq⟩ := octalLetter_unnamed first
      have digit : isDigit (digitLetter first) = true :=
        isDigit_of_isOctal (digitLetter_isOctal first).1
      simp only [escape, control_eq, property_eq, anchor_eq, digit, if_true]
      split
      · exact (passes_octalEscape few inside fits).andThen (.returns _)
      next notZero =>
        have three : others.length = 2 := noReference.resolve_left fun zero => notZero (zero ▸ rfl)
        obtain ⟨second, third, rfl⟩ := List.length_eq_two.mp three
        exact passes_referenceEscape inside

/-- The letter of a kind of characters stands for it inside of a class. -/
theorem readsBack_categoryInClass (kind : Category) (lacking : Bool) :
    ReadsBack [.scalar '\\', .scalar (kind.letter lacking)] text (classItem [])
      (kind.part lacking) := by
  refine ⟨⟨true, .scalar (kind.letter lacking)⟩, [], .escaped _ text, fun known => ?_⟩
  cases kind <;> cases lacking <;> exact .returns _

/-- The letter of a kind of characters stands for it outside of classes. -/
theorem readsBack_category (kind : Category) (lacking : Bool) :
    ReadsBack [.scalar '\\', .scalar (kind.letter lacking)] text
      (fun token => escape [] token.point) (.one ⟨false, .strict, [kind.part lacking]⟩) := by
  refine ⟨⟨true, .scalar (kind.letter lacking)⟩, [], .escaped _ text, fun known => ?_⟩
  cases kind <;> cases lacking <;> exact .returns _

private theorem readsBack_member (member : Member) (fits : member.Fits text) :
    ReadsBack member.written text (classItem []) (singlePart member.number) := by
  cases member with
  | plain point noEscape =>
      exact ⟨⟨false, point⟩, [], .plain noEscape text, fun known => .returns _⟩
  | escape written => exact readsBack_escapeInClass written fits
  | backspace => exact ⟨⟨true, .scalar 'b'⟩, [], .escaped _ text, fun known => .returns _⟩

/-! ## Classes -/

theorem Starts.is_iff {token : Token} (starts : Starts text token rest) {c : Char}
    (noEscape : c ≠ '\\') : token.is c = true ↔ text.head? = some (.scalar c) := by
  cases starts with
  | plain => simp [Token.is]
  | escaped => simp [Token.is, Ne.symm noEscape]

section Class

variable {start fuel : Nat} {parts : List ClassPart}

private theorem closes_eq_false {token : Token} (starts : Starts text token rest)
    (opens : parts ≠ [] → text.head? ≠ some (.scalar ']')) :
    (token.is ']' && !parts.isEmpty) = false := by
  rw [Bool.eq_false_iff, ne_eq, Bool.and_eq_true, starts.is_iff (by decide)]
  rintro ⟨closes, nonempty⟩
  exact opens (by simpa using nonempty) closes

private theorem passes_classParts_close (nonempty : parts ≠ []) :
    Passes (At (.scalar ']' :: rest) known) (classParts [] start (fuel + 1) parts)
      (Returns parts (At rest known)) := by
  rw [classParts]
  refine (passes_take (.plain (by decide) rest)).andThen ?_
  have closes : (Token.is ⟨false, .scalar ']'⟩ ']' && !parts.isEmpty) = true := by
    simpa [Token.is] using nonempty
  simp only [closes, if_true]
  exact .returns parts

/-- A single item of a class is read, behind which no range goes on. -/
theorem passes_classParts_item {written : CodePoints} {part : ClassPart}
    {after : List ClassPart → Cursor → Prop} (reads : ReadsBack written text (classItem []) part)
    (opens : parts ≠ [] → (written ++ text).head? ≠ some (.scalar ']'))
    (noRange : text.head? ≠ some (.scalar '-'))
    (others : Passes (At text known) (classParts [] start fuel (parts ++ [part])) after) :
    Passes (At (written ++ text) known) (classParts [] start (fuel + 1) parts) after := by
  obtain ⟨token, tail, starts, item⟩ := reads
  rw [classParts]
  refine (passes_take starts).andThen ?_
  simp only [closes_eq_false starts opens, Bool.false_eq_true, if_false]
  refine (item known).andThen ((passes_accept_not (by decide) noRange).andThen ?_)
  simpa using others

/-- A hyphen at the end of a class is one of its characters. -/
theorem passes_classParts_hyphen {written : CodePoints} {part : ClassPart}
    (reads : ReadsBack written (.scalar '-' :: .scalar ']' :: rest) (classItem []) part)
    (opens : parts ≠ [] →
      (written ++ .scalar '-' :: .scalar ']' :: rest).head? ≠ some (.scalar ']')) :
    Passes (At (written ++ .scalar '-' :: .scalar ']' :: rest) known)
      (classParts [] start (fuel + 1) parts)
      (Returns (parts ++ [part, singlePart 0x2D]) (At rest known)) := by
  obtain ⟨token, tail, starts, item⟩ := reads
  rw [classParts]
  refine (passes_take starts).andThen ?_
  simp only [closes_eq_false starts opens, Bool.false_eq_true, if_false]
  refine (item known).andThen ((passes_accept (by decide)).andThen ?_)
  refine (passes_take (.plain (by decide) rest)).andThen ?_
  exact .returns _

/-- Only a sign that is written alone is the first character of how it is written. -/
theorem written_eq_of_head? {member : Member} {c : Char} (noEscape : c ≠ '\\')
    (head_eq : (member.written ++ text).head? = some (.scalar c)) :
    member.written = [.scalar c] := by
  cases member with
  | plain point => simpa [Member.written] using head_eq
  | escape | backspace => exact absurd head_eq (by simp [Member.written, noEscape.symm])

/-- A range is read. -/
theorem passes_classParts_range {first last : Member}
    {after : List ClassPart → Cursor → Prop} (ordered : first.number ≤ last.number)
    (goesOn : last.written ≠ [.scalar ']']) (fits : last.Fits text)
    (opens : parts ≠ [] → (first.written ++ .scalar '-' :: (last.written ++ text)).head? ≠
      some (.scalar ']'))
    (others : Passes (At text known)
      (classParts [] start fuel (parts ++ [.range first.number last.number])) after) :
    Passes (At (first.written ++ .scalar '-' :: (last.written ++ text)) known)
      (classParts [] start (fuel + 1) parts) after := by
  have lacks : LacksOctal (.scalar '-' :: (last.written ++ text)) := lacksOctal_cons (by decide) _
  obtain ⟨token, tail, starts, item⟩ :=
    readsBack_member first (member_fits_of_lacksOctal lacks first)
  obtain ⟨lastToken, lastTail, lastStarts, lastItem⟩ := readsBack_member last fits
  rw [classParts]
  refine (passes_take starts).andThen ?_
  simp only [closes_eq_false starts opens, Bool.false_eq_true, if_false]
  refine (item known).andThen ((passes_accept (by decide)).andThen ?_)
  refine (passes_take lastStarts).andThen ?_
  have notLast : lastToken.is ']' = false := by
    rw [Bool.eq_false_iff, ne_eq, lastStarts.is_iff (by decide)]
    exact mt (written_eq_of_head? (by decide)) goesOn
  simp only [notLast, Bool.false_eq_true, if_false]
  refine (lastItem known).andThen (Passes.here_bind fun index => ?_)
  simp only [singlePart, if_neg (Nat.not_lt.mpr ordered)]
  exact others

private theorem head?_part_append (part : Part) (text : CodePoints) :
    (part.written ++ text).head? = part.written.head? := by
  cases part with
  | category => rfl
  | single member => cases member <;> rfl
  | range first => cases first <;> rfl

/-- A part that is written as a hyphen is one. -/
theorem part_of_written_hyphen {part : Part} (written_eq : part.written = [.scalar '-']) :
    part.part = singlePart 0x2D := by
  cases part with
  | category => cases written_eq
  | single member =>
      cases member with
      | plain point =>
          obtain rfl : point = .scalar '-' := by
            simpa [Part.written, Member.written] using written_eq
          rfl
      | escape | backspace => cases written_eq
  | range first last =>
      have lengths := congrArg List.length written_eq
      cases first <;> cases last <;>
        simp [Part.written, Member.written] at lengths

/-- A part of a class is read, if no hyphen behind it makes it the start of a range. -/
theorem passes_classParts_part (part : Part) {after : List ClassPart → Cursor → Prop}
    (fits : part.Fits text)
    (opens : parts ≠ [] → part.written.head? ≠ some (.scalar ']'))
    (noRange : part.isRange = false → text.head? ≠ some (.scalar '-'))
    (others : Passes (At text known) (classParts [] start fuel (parts ++ [part.part])) after) :
    Passes (At (part.written ++ text) known) (classParts [] start (fuel + 1) parts) after := by
  rw [← head?_part_append part text] at opens
  cases part with
  | category kind lacking =>
      exact passes_classParts_item (readsBack_categoryInClass kind lacking) opens (noRange rfl)
        others
  | single member =>
      exact passes_classParts_item (readsBack_member member fits) opens (noRange rfl) others
  | range first last ordered goesOn =>
      rw [Part.written, List.append_assoc, List.cons_append] at opens ⊢
      exact passes_classParts_range ordered goesOn fits opens others

/-- The parts of a class are read up to its closing bracket. -/
theorem passes_classParts (part : Part) (others : List Part) (goOn : PartsGoOn part others)
    (opens : parts ≠ [] → part.written.head? ≠ some (.scalar ']'))
    (enough : others.length + 2 ≤ fuel) :
    Passes (At (partsWritten (part :: others) ++ .scalar ']' :: rest) known)
      (classParts [] start fuel parts)
      (Returns (parts ++ (part :: others).map Part.part) (At rest known)) := by
  induction others generalizing part parts fuel with
  | nil =>
      obtain ⟨fuel, rfl⟩ := Nat.exists_eq_add_of_le' enough
      have text_eq : partsWritten [part] ++ .scalar ']' :: rest =
          part.written ++ .scalar ']' :: rest := by
        rw [partsWritten, List.flatMap_singleton]
      rw [text_eq]
      have lacks : LacksOctal (.scalar ']' :: rest) := lacksOctal_cons (by decide) rest
      exact passes_classParts_part part (part_fits_of_lacksOctal lacks part) opens
        (fun _ => by simp) (passes_classParts_close (by simp))
  | cons next others induction =>
      obtain ⟨fuel, rfl⟩ := Nat.exists_eq_add_of_le' (Nat.le_of_add_left_le enough)
      obtain ⟨fits, open_next, hyphen, goOn⟩ := goOn
      have text_eq : partsWritten (part :: next :: others) ++ .scalar ']' :: rest =
          part.written ++ (partsWritten (next :: others) ++ .scalar ']' :: rest) := by
        rw [partsWritten, List.flatMap_cons, List.append_assoc]
        rfl
      have head_eq : (partsWritten (next :: others) ++ .scalar ']' :: rest).head? =
          next.written.head? := by
        rw [partsWritten, List.flatMap_cons, List.append_assoc, head?_part_append]
      rw [text_eq]
      by_cases ends : part.isRange = false ∧ next.written.head? = some (.scalar '-')
      · -- the hyphen behind an item that is no range ends the class
        obtain ⟨next_eq, rfl⟩ := hyphen ends.1 ends.2
        rw [next_eq] at fits
        have fits : part.Fits (.scalar '-' :: .scalar ']' :: rest) :=
          part_fits_of_head? (by rfl) fits
        have reads : ReadsBack part.written (.scalar '-' :: .scalar ']' :: rest) (classItem [])
            part.part := by
          cases part with
          | category kind lacking => exact readsBack_categoryInClass kind lacking
          | single member => exact readsBack_member member fits
          | range => cases ends.1
        rw [← head?_part_append part] at opens
        have last_eq := part_of_written_hyphen next_eq
        simp only [partsWritten, List.flatMap_singleton, next_eq, List.singleton_append,
          List.map_cons, List.map_nil, last_eq]
        exact passes_classParts_hyphen reads opens
      · refine passes_classParts_part part (part_fits_of_head? head_eq.symm fits) opens
          (fun noRange => ?_) ?_
        · rw [head_eq]
          exact fun isHyphen => ends ⟨noRange, isHyphen⟩
        · rw [List.length_cons] at enough
          have others_read := induction next goOn (fun _ : parts ++ [part.part] ≠ [] => open_next)
            (show others.length + 2 ≤ fuel + 1 by omega)
          simpa using others_read

/-- A class is read behind its opening bracket. -/
theorem passes_bracket (cls : Bracket) :
    Passes (At ((if cls.negated then [.scalar '^'] else []) ++
        (partsWritten (cls.first :: cls.others) ++ .scalar ']' :: rest)) known) (bracket [])
      (Returns (.one (Single.bracket cls).cls) (At rest known)) := by
  have count := length_le_tokensOf_parts (cls.first :: cls.others) (.scalar ']' :: rest)
  have closing : Starts (.scalar ']' :: rest) ⟨false, .scalar ']'⟩ rest := .plain (by decide) rest
  rw [closing.tokensOf_eq, List.length_cons, List.length_cons] at count
  have sign : Passes (At ((if cls.negated then [.scalar '^'] else []) ++
      (partsWritten (cls.first :: cls.others) ++ .scalar ']' :: rest)) known) (accept '^')
      (Returns cls.negated (At (partsWritten (cls.first :: cls.others) ++ .scalar ']' :: rest)
        known)) := by
    cases negated_eq : cls.negated with
    | true => exact passes_accept (by decide)
    | false =>
        refine passes_accept_not (by decide) ?_
        rw [if_neg Bool.false_ne_true, List.nil_append, partsWritten, List.flatMap_cons,
          List.append_assoc, head?_part_append]
        exact cls.unsigned negated_eq
  refine Passes.here_bind fun index => sign.andThen (passes_remaining.andThen ?_)
  refine (passes_classParts cls.first cls.others cls.goOn (by simp) (by omega)).andThen ?_
  exact .returns _

end Class

end Parser
end Pattern
end DiscoveryFiles
