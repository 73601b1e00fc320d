import DiscoveryFiles.Proofs.Json.Grammar
import DiscoveryFiles.Proofs.Json.Integer
import DiscoveryFiles.Proofs.Text.Part

/-!
# Reading constants and numbers

The reader takes a constant or a number of the grammar off the front of a text, if what follows does
not go on with it, and whatever it takes is a constant or a number of the grammar.  The number of
digits of an integer is the one limit.
-/

namespace DiscoveryFiles
namespace Json

namespace Parser

/-- Whether a failure is that a limit of the reader is passed. -/
def Failure.IsLimit : Failure → Prop
  | .malformed _ _ => False
  | .tooDeep _ | .tooManyDigits _ => True

/-- Whether the outcome of reading is the expected one, unless a limit of the reader is passed. -/
def Reaches {α : Type} (outcome : Outcome α) (expected : α × Text) : Prop :=
  outcome = .ok expected ∨ ∃ failure, outcome = .error failure ∧ failure.IsLimit

end Parser

/-! ## Digits -/

private theorem isDigit_eq (c : Char) : Parser.isDigit c = c.isDigit := by
  rw [Bool.eq_iff_iff, Parser.isDigit_iff, Char.isDigit_iff_toNat]
  rfl

private theorem decimalNumber_eq (digits : Text) :
    Parser.decimalNumber digits = numberOf digits := by
  rw [Parser.decimalNumber, numberOf, Nat.ofDigitChars_eq_foldl]
  simp only [Nat.mul_comm 10]

private theorem digits_takeWhile {text : Text}
    (some_taken : (text.takeWhile Parser.isDigit).isEmpty = false) :
    Digits (text.takeWhile Parser.isDigit) := by
  refine ⟨by simpa using some_taken, fun c member => ?_⟩
  rw [← isDigit_eq]
  exact List.mem_takeWhile_imp member

theorem Digits.isDigit {digits : Text} (plain : Digits digits) :
    ∀ c ∈ digits, Parser.isDigit c = true := by
  intro c member
  rw [isDigit_eq]
  exact plain.2 c member

theorem Digits.exists_cons {digits : Text} (plain : Digits digits) :
    ∃ c rest, digits = c :: rest ∧ Parser.isDigit c = true := by
  obtain ⟨c, rest, rfl⟩ := List.exists_cons_of_ne_nil plain.1
  exact ⟨c, rest, rfl, plain.isDigit c List.mem_cons_self⟩

theorem WholeText.exists_cons {whole : Text} (written : WholeText whole) :
    ∃ c rest, whole = c :: rest ∧ Parser.isDigit c = true := by
  cases written with
  | zero => exact ⟨'0', [], rfl, rfl⟩
  | positive plain => exact plain.exists_cons

namespace Parser

/-! ## The parts of a number -/

section Taken

variable (text : Text)

theorem exists_signText :
    ∃ sign, SignText sign (minusSign text).1 ∧ text = sign ++ (minusSign text).2 := by
  rw [minusSign.eq_def]
  split
  · exact ⟨['-'], .minus, rfl⟩
  · exact ⟨[], .absent, rfl⟩

theorem wholeText_of_wholePart? {text whole rest : Text}
    (taken : wholePart? text = some (whole, rest)) : WholeText whole ∧ text = whole ++ rest := by
  rw [wholePart?.eq_def] at taken
  split at taken
  · cases taken
  next c others =>
    split at taken
    next zero =>
      cases taken
      exact ⟨.zero, by rw [zero]; rfl⟩
    next nonzero =>
      split at taken
      next digit =>
        cases taken
        refine ⟨.positive ⟨List.cons_ne_nil _ _, ?_⟩ (by simpa using nonzero), ?_⟩
        · simp only [← isDigit_eq]
          exact List.forall_mem_cons.mpr ⟨digit, fun _ => List.mem_takeWhile_imp⟩
        · rw [List.cons_append, List.takeWhile_append_dropWhile]
      · cases taken

theorem exists_fractionText :
    ∃ used, FractionText used ((fractionPart text).1.getD []) ∧
      ((fractionPart text).1 = none ↔ used = []) ∧ text = used ++ (fractionPart text).2 := by
  rw [fractionPart.eq_def]
  split
  next rest =>
    by_cases none_taken : (rest.takeWhile isDigit).isEmpty = true
    · rw [if_pos none_taken]
      exact ⟨[], .absent, by simp, rfl⟩
    · rw [if_neg none_taken]
      refine ⟨_, .present (digits_takeWhile (Bool.not_eq_true _ ▸ none_taken)), by simp, ?_⟩
      rw [List.cons_append, Option.getD_some, List.takeWhile_append_dropWhile]
  · exact ⟨[], .absent, by simp, rfl⟩

/-- The power of ten that the parts of an exponent stand for. -/
def powerOf : Option (Bool × Text) → Int
  | none => 0
  | some (negative, digits) => Binary64.signed negative (numberOf digits)

private theorem exists_exponentText :
    ∃ used, ExponentText used (powerOf (exponentPart text).1) ∧
      ((exponentPart text).1 = none ↔ used = []) ∧ text = used ++ (exponentPart text).2 := by
  rw [exponentPart.eq_def]
  split
  · exact ⟨[], .absent, by simp, rfl⟩
  next c rest =>
    by_cases taken : ((c = 'e' || c = 'E') &&
        !((exponentSign rest).2.takeWhile isDigit).isEmpty) = true
    · simp only [taken, if_true]
      simp only [Bool.and_eq_true, Bool.or_eq_true, decide_eq_true_eq, Bool.not_eq_true'] at taken
      obtain ⟨marks, some_taken⟩ := taken
      have plain := digits_takeWhile some_taken
      rw [exponentSign.eq_def] at plain ⊢
      split at plain
      · refine ⟨_, .negative marks plain, by simp, ?_⟩
        simp
      · refine ⟨_, .positive marks plain, by simp, ?_⟩
        simp
      · refine ⟨_, .unsigned marks plain, by simp, ?_⟩
        simp
    · simp only [taken]
      exact ⟨[], .absent, by simp, rfl⟩

end Taken

section Read

variable {rest : Text}

private theorem minusSign_append {sign : Text} {negative : Bool} (signed : SignText sign negative)
    (unsigned : rest.head? ≠ some '-') : minusSign (sign ++ rest) = (negative, rest) := by
  cases signed with
  | minus => rfl
  | absent =>
      rw [List.nil_append, minusSign]
      rintro _ rfl
      exact unsigned rfl

private theorem wholePart?_append {whole : Text} (written : WholeText whole)
    (ends : EndsDigits rest) :
    wholePart? (whole ++ rest) = some (whole, rest) := by
  cases written with
  | zero => rfl
  | positive plain leading =>
      obtain ⟨c, digits, rfl, -⟩ := plain.exists_cons
      have nonzero : c ≠ '0' := by simpa using leading
      exact wholePart?_of_writesInteger ⟨plain.isDigit, c, digits, rfl, nonzero⟩ ends

/-- A fraction is read whole if no digit follows, and none is read where no point follows. -/
theorem fractionPart_append {fraction places : Text} (written : FractionText fraction places)
    (ends : EndsDigits rest) (noPoint : rest.head? ≠ some '.') :
    (fractionPart (fraction ++ rest)).1.getD [] = places ∧
      ((fractionPart (fraction ++ rest)).1 = none ↔ fraction = []) ∧
      (fractionPart (fraction ++ rest)).2 = rest := by
  cases written with
  | absent =>
      have none_read : fractionPart rest = (none, rest) := by
        rw [fractionPart]
        rintro _ rfl
        exact noPoint rfl
      simp [none_read]
  | present plain =>
      simp [fractionPart, takeWhile_isDigit_append ends plain.isDigit,
        dropWhile_isDigit_append ends plain.isDigit, plain.1]

theorem exponentSign_of_digits {digits : Text} (plain : Digits digits) :
    exponentSign (digits ++ rest) = (false, digits ++ rest) := by
  obtain ⟨c, others, rfl, digit⟩ := plain.exists_cons
  rw [exponentSign]
  all_goals
    rintro _ ⟨⟩
    cases digit

/-- An exponent is read whole if nothing follows that a numeral could go on with. -/
theorem exponentPart_append {exponent : Text} {power : Int}
    (written : ExponentText exponent power) (ends : EndsNumeral rest) :
    powerOf (exponentPart (exponent ++ rest)).1 = power ∧
      ((exponentPart (exponent ++ rest)).1 = none ↔ exponent = []) ∧
      (exponentPart (exponent ++ rest)).2 = rest := by
  cases written with
  | absent => simp [exponentPart_of_endsNumeral ends, powerOf]
  | unsigned marks plain =>
      simp [exponentPart, exponentSign_of_digits plain, marks, powerOf, Binary64.signed, plain.1,
        takeWhile_isDigit_append ends.endsDigits plain.isDigit,
        dropWhile_isDigit_append ends.endsDigits plain.isDigit]
  | positive marks plain | negative marks plain =>
      simp [exponentPart, exponentSign, marks, powerOf, Binary64.signed, plain.1,
        takeWhile_isDigit_append ends.endsDigits plain.isDigit,
        dropWhile_isDigit_append ends.endsDigits plain.isDigit]

end Read

/-! ## Whole numbers -/

/-- Whether the parts that the reader found are those of a number that is written in four parts. -/
structure Spells (numeral : Numeral) (sign fraction exponent : Text) : Prop where
  /-- The sign. -/
  signed : SignText sign numeral.negative
  /-- The digits before the point. -/
  digits : WholeText numeral.whole
  /-- The digits behind the point. -/
  fractional : FractionText fraction (numeral.fraction.getD [])
  /-- No fraction was found where none is written. -/
  fraction_iff : numeral.fraction = none ↔ fraction = []
  /-- The exponent. -/
  exponential : ExponentText exponent (powerOf numeral.exponent)
  /-- No exponent was found where none is written. -/
  exponent_iff : numeral.exponent = none ↔ exponent = []

private theorem exists_spells {text rest : Text} {numeral : Numeral}
    (taken : numeral? text = some (numeral, rest)) :
    ∃ sign fraction exponent, Spells numeral sign fraction exponent ∧
      text = (sign ++ (numeral.whole ++ (fraction ++ exponent))) ++ rest := by
  obtain ⟨sign, signed, text_eq⟩ := exists_signText text
  simp only [numeral?] at taken
  split at taken
  · cases taken
  next whole behind whole_eq =>
    cases taken
    obtain ⟨digits, behind_eq⟩ := wholeText_of_wholePart? whole_eq
    obtain ⟨fraction, fractional, fraction_iff, fraction_eq⟩ := exists_fractionText behind
    obtain ⟨exponent, exponential, exponent_iff, exponent_eq⟩ :=
      exists_exponentText (fractionPart behind).2
    refine ⟨sign, fraction, exponent,
      ⟨signed, digits, fractional, fraction_iff, exponential, exponent_iff⟩, ?_⟩
    simp only [List.append_assoc]
    rw [← exponent_eq, ← fraction_eq, ← behind_eq]
    exact text_eq

/-- A numeral without fraction and exponent has a value unless it has too many digits. -/
theorem value_of_integer {negative : Bool} {whole : Text} :
    Numeral.value ⟨negative, whole, none, none⟩ =
      if digitLimit < whole.length then .error (.tooManyDigits whole.length)
      else .ok (.integer (Binary64.signed negative (numberOf whole))) := by
  simp [Numeral.value, decimalNumber_eq, Binary64.signed]

/-- Any other numeral has a value. -/
theorem value_of_double {numeral : Numeral}
    (further : ¬(numeral.fraction = none ∧ numeral.exponent = none)) :
    numeral.value = .ok (.double (Binary64.ofDecimal numeral.negative
      (numberOf (numeral.whole ++ numeral.fraction.getD []))
      (powerOf numeral.exponent - (numeral.fraction.getD []).length))) := by
  obtain ⟨negative, whole, fraction, exponent⟩ := numeral
  cases fraction with
  | some places =>
      cases exponent <;> simp [Numeral.value, decimalNumber_eq, powerOf, Binary64.signed]
  | none =>
      cases exponent with
      | some power => simp [Numeral.value, decimalNumber_eq, powerOf, Binary64.signed]
      | none => exact absurd ⟨rfl, rfl⟩ further

/-- What is read as a number is one of the grammar. -/
theorem numberText_of_spells {numeral : Numeral} {sign fraction exponent : Text} {value : Json}
    (spells : Spells numeral sign fraction exponent) (valued : numeral.value = .ok value) :
    NumberText (sign ++ (numeral.whole ++ (fraction ++ exponent))) value := by
  by_cases integral : numeral.fraction = none ∧ numeral.exponent = none
  · have no_fraction := spells.fraction_iff.mp integral.1
    have no_exponent := spells.exponent_iff.mp integral.2
    subst no_fraction no_exponent
    obtain ⟨negative, whole, fraction, exponent⟩ := numeral
    obtain ⟨rfl, rfl⟩ := integral
    rw [value_of_integer] at valued
    split at valued
    · cases valued
    · cases valued
      simpa using NumberText.integer spells.signed spells.digits
  · rw [value_of_double integral] at valued
    cases valued
    refine .double spells.signed spells.digits spells.fractional spells.exponential ?_
    rw [Ne, List.append_eq_nil_iff, ← spells.fraction_iff, ← spells.exponent_iff]
    exact integral

section Written

variable {sign whole fraction exponent places rest : Text} {negative : Bool} {power : Int}

private theorem endsDigits_exponent_append (written : ExponentText exponent power)
    (ends : EndsNumeral rest) :
    EndsDigits (exponent ++ rest) ∧ (exponent ++ rest).head? ≠ some '.' := by
  have opens {mark : Char} (marks : mark = 'e' ∨ mark = 'E') :
      isDigit mark = false ∧ mark ≠ '.' := by
    obtain rfl | rfl := marks <;> decide
  cases written with
  | absent => exact ⟨ends.endsDigits, fun point => (ends _ point).2.1 rfl⟩
  | unsigned marks | positive marks | negative marks =>
      exact ⟨by simpa [EndsDigits] using (opens marks).1, by simpa using (opens marks).2⟩

private theorem endsDigits_fraction_append (written : FractionText fraction places)
    (ends : EndsDigits rest) : EndsDigits (fraction ++ rest) := by
  cases written with
  | absent => exact ends
  | present => simp [EndsDigits, isDigit]

/-- A number of the grammar is taken whole if nothing follows that could go on with it. -/
theorem numeral?_append (signed : SignText sign negative) (digits : WholeText whole)
    (fractional : FractionText fraction places) (exponential : ExponentText exponent power)
    (ends : EndsNumeral rest) :
    ∃ numeral, numeral? ((sign ++ (whole ++ (fraction ++ exponent))) ++ rest) =
        some (numeral, rest) ∧
      numeral.negative = negative ∧ numeral.whole = whole ∧
      numeral.fraction.getD [] = places ∧ (numeral.fraction = none ↔ fraction = []) ∧
      powerOf numeral.exponent = power ∧ (numeral.exponent = none ↔ exponent = []) := by
  obtain ⟨exponent_digits, noPoint⟩ := endsDigits_exponent_append exponential ends
  have whole_ends := endsDigits_fraction_append fractional exponent_digits
  have unsigned : (whole ++ (fraction ++ (exponent ++ rest))).head? ≠ some '-' := by
    obtain ⟨c, others, rfl, digit⟩ := digits.exists_cons
    rintro ⟨⟩
    cases digit
  obtain ⟨places_eq, fraction_iff, behind_eq⟩ :=
    fractionPart_append fractional exponent_digits noPoint
  obtain ⟨power_eq, exponent_iff, rest_eq⟩ := exponentPart_append exponential ends
  refine ⟨⟨negative, whole, _, _⟩, ?_, rfl, rfl, places_eq, fraction_iff, power_eq, exponent_iff⟩
  simp only [numeral?, List.append_assoc, minusSign_append signed unsigned,
    wholePart?_append digits whole_ends, behind_eq, rest_eq]

end Written

/-! ## Constants -/

private theorem constantText_of_mem_constants {entry : String × Json} (listed : entry ∈ constants) :
    ConstantText entry.1.toList entry.2 := by
  simp only [constants, List.mem_cons, List.not_mem_nil, or_false] at listed
  obtain rfl | rfl | rfl | rfl | rfl | rfl := listed
  · exact .null
  · exact .true
  · exact .false
  · exact .nan
  · exact .infinity
  · exact .negativeInfinity

private theorem exists_constantText {text rest : Text} {value : Json}
    (taken : constant? text = some (value, rest)) :
    ∃ word, ConstantText word value ∧ text = word ++ rest := by
  obtain ⟨entry, found, same⟩ := Option.map_eq_some_iff.mp taken
  obtain ⟨begins, -⟩ := List.find?_eq_some_iff_append.mp found
  obtain ⟨behind, rfl⟩ := Text.begins_iff.mp begins
  obtain ⟨rfl, rest_eq⟩ := Prod.mk.inj same
  refine ⟨_, constantText_of_mem_constants (List.mem_of_find?_eq_some found), ?_⟩
  rw [← rest_eq, ← String.length_toList, List.drop_left]

private theorem constant?_append {word : Text} {value : Json} (written : ConstantText word value)
    (rest : Text) : constant? (word ++ rest) = some (value, rest) := by
  cases written <;> rfl

private theorem constant?_of_numberText {text : Text} {value : Json}
    (written : NumberText text value)
    (rest : Text) : constant? (text ++ rest) = none := by
  have unnamed {sign whole : Text} {negative : Bool} (signed : SignText sign negative)
      (digits : WholeText whole) (more : Text) : constant? (sign ++ (whole ++ more)) = none := by
    obtain ⟨c, others, rfl, digit⟩ := digits.exists_cons
    cases signed with
    | absent => exact constant?_of_isDigit digit _
    | minus =>
        have other : 'I' ≠ c := by
          rintro rfl
          cases digit
        simp [constant?, constants, Text.begins, other]
  cases written with
  | integer signed digits =>
      rw [List.append_assoc]
      exact unnamed signed digits rest
  | double signed digits fractional exponential further =>
      rw [List.append_assoc, List.append_assoc]
      exact unnamed signed digits _

/-! ## Atoms -/

/-- What is read as an atom is a constant or a number. -/
theorem exists_atomText {text rest : Text} {value : Json} (taken : atom text = .ok (value, rest)) :
    ∃ used, (ConstantText used value ∨ NumberText used value) ∧ text = used ++ rest := by
  rw [atom] at taken
  split at taken
  next result constant_eq =>
    cases taken
    obtain ⟨word, written, text_eq⟩ := exists_constantText constant_eq
    exact ⟨word, .inl written, text_eq⟩
  · split at taken
    · cases taken
    next numeral behind numeral_eq =>
      split at taken
      next valued =>
        cases taken
        obtain ⟨sign, fraction, exponent, spells, text_eq⟩ := exists_spells numeral_eq
        exact ⟨_, .inr (numberText_of_spells spells valued), text_eq⟩
      · cases taken

theorem atom_of_constantText {word : Text} {value : Json} (written : ConstantText word value)
    (rest : Text) : atom (word ++ rest) = .ok (value, rest) := by
  rw [atom, constant?_append written]

/-- A number is read in front of whatever does not go on with it, unless it is an integer with too
many digits. -/
theorem reaches_atom_of_numberText {text rest : Text} {value : Json}
    (written : NumberText text value) (ends : EndsNumeral rest) :
    Reaches (atom (text ++ rest)) (value, rest) := by
  rw [atom, constant?_of_numberText written]
  cases written with
  | integer signed digits =>
      obtain ⟨⟨negative, whole, fraction, exponent⟩, taken, rfl, rfl, -, fraction_iff, -,
        exponent_iff⟩ := numeral?_append signed digits .absent .absent ends
      obtain rfl : fraction = none := fraction_iff.mpr rfl
      obtain rfl : exponent = none := exponent_iff.mpr rfl
      simp only [List.append_nil] at taken
      simp only [taken, value_of_integer]
      by_cases many : digitLimit < whole.length
      · rw [if_pos many]
        exact .inr ⟨_, rfl, trivial⟩
      · rw [if_neg many]
        exact .inl rfl
  | double signed digits fractional exponential further =>
      obtain ⟨numeral, taken, rfl, rfl, rfl, fraction_iff, rfl, exponent_iff⟩ :=
        numeral?_append signed digits fractional exponential ends
      have double : ¬(numeral.fraction = none ∧ numeral.exponent = none) := by
        rw [fraction_iff, exponent_iff, ← List.append_eq_nil_iff]
        exact further
      simp only [taken, value_of_double double]
      exact .inl rfl

end Parser
end Json
end DiscoveryFiles
