import DiscoveryFiles.Proofs.Number.Scaled
import DiscoveryFiles.Proofs.Schema.Evaluation

/-!
# What keywords ask for

The conditions that single keywords place on a value, stated without the evaluation.  Each keyword
whose evaluation comes to an end finds nothing exactly when its condition is met.
-/

namespace DiscoveryFiles

/-- A value is a whole number; truth values are none. -/
def Json.IsWhole : Json → Prop
  | .integer _ => True
  | .double (.finite negative significand exponent) =>
      ∃ n : ℤ, scaled (Binary64.signed negative significand) exponent = n
  | _ => False

theorem Json.isInteger_iff (data : Json) : data.isInteger = true ↔ data.IsWhole := by
  cases data with
  | double x =>
      cases x with
      | finite negative significand exponent =>
          exact Binary64.isWhole_finite_iff negative significand exponent
      | _ => simp [isInteger, IsWhole, Binary64.isWhole]
  | _ => simp [isInteger, IsWhole]

namespace Schema

/-! ## The conditions -/

/-- A value has a declared type.  No type and the null type are no condition. -/
def HasType (keywords : List (CodePoints × Json)) (data : Json) : Prop :=
  ∀ declared, keyword? "type" keywords = some declared → declared ≠ .null →
    declared = .words data.typeName ∨ declared = .words "integer" ∧ data.IsWhole

/-- The keywords for values of a type apply: the type is the declared one, or none is declared. -/
def Governs (keywords : List (CodePoints × Json)) (type : String) : Prop :=
  keyword? "type" keywords = none ∨ keyword? "type" keywords = some .null ∨
    keyword? "type" keywords = some (.words type)

/-- A length is at least the value of a keyword, which is a number, a truth value or null. -/
def Reaches (length : Nat) : Json → Prop
  | .null => True
  | .boolean b => b.toNat ≤ length
  | .integer n => n ≤ length
  | .double (.finite negative significand exponent) =>
      scaled (Binary64.signed negative significand) exponent ≤ length
  | .double (.infinite negative) => negative = true
  | .double .nan => True
  | _ => False

/-- What the keywords that look at a value alone ask of it. -/
structure Suits (keywords : List (CodePoints × Json)) (data : Json) : Prop where
  /-- The value has the declared type. -/
  type : HasType keywords data
  /-- The value equals the constant. -/
  constant : ∀ constant, keyword? "const" keywords = some constant → data.equal constant = true
  /-- The value equals one of the options. -/
  option : ∀ value, keyword? "enum" keywords = some value →
    ∃ options, elements value = .ok options ∧ ∃ option ∈ options, data.equal option = true
  /-- A string has as many code points as asked for. -/
  length : ∀ points least, data = .string points → keyword? "minLength" keywords = some least →
    Reaches points.length least
  /-- A string contains a match of a pattern that is not empty. -/
  pattern : ∀ points text, data = .string points →
    keyword? "pattern" keywords = some (.string text) → text ≠ [] →
    ∃ pattern, Pattern.parse text = .ok pattern ∧ pattern.occursIn points = true

/-- An object has a required key. -/
def HasKey (members : List (CodePoints × Json)) (key : Json) : Prop :=
  ∃ name value, key = .string name ∧ Json.member? name members = some value

/-- The members that a schema declares. -/
def declaredMembers (keywords : List (CodePoints × Json)) : List (CodePoints × Json) :=
  match keyword? "properties" keywords with
  | some (.object declared) => declared
  | _ => []

/-- What a schema asks of the keys of an object. -/
structure KeysSuit (keywords members : List (CodePoints × Json)) : Prop where
  /-- The object has every required key. -/
  required : ∀ value, keyword? "required" keywords = some value →
    ∃ keys, elements value = .ok keys ∧ ∀ key ∈ keys, HasKey members key
  /-- A closed schema that declares members declares all that the object has. -/
  closed : keyword? "additionalProperties" keywords = some (.boolean false) →
    declaredMembers keywords ≠ [] →
    ∀ entry ∈ members,
      ∃ subschema, Json.member? entry.1 (declaredMembers keywords) = some subschema

/-! ## Keywords by name -/

@[simp]
theorem ofString_injective {first second : String} :
    CodePoints.ofString first = CodePoints.ofString second ↔ first = second := by
  constructor
  · intro same
    have shown_eq := congrArg CodePoints.shown same
    simpa [CodePoints.ofString, String.toList_inj] using shown_eq
  · rintro rfl
    rfl

@[simp]
theorem member?_nil (name : CodePoints) : Json.member? name [] = none := rfl

@[simp]
theorem member?_ofString_cons (name key : String) (value : Json)
    (members : List (CodePoints × Json)) :
    Json.member? (CodePoints.ofString name) ((CodePoints.ofString key, value) :: members) =
      if name = key then some value else Json.member? (CodePoints.ofString name) members := by
  by_cases same : name = key
  · simp [Json.member?, same]
  · have differ : (CodePoints.ofString name == CodePoints.ofString key) = false := by
      rw [beq_eq_false_iff_ne]
      simpa using same
    simp [Json.member?, List.lookup_cons, differ, same]

@[simp]
theorem keyword?_nil (name : String) : keyword? name [] = none := rfl

@[simp]
theorem keyword?_cons (name key : String) (value : Json) (keywords : List (CodePoints × Json)) :
    keyword? name ((CodePoints.ofString key, value) :: keywords) =
      if name = key then some value else keyword? name keywords :=
  member?_ofString_cons name key value keywords

/-! ## Types and lengths -/

@[simp]
theorem hasType_none (data : Json) : hasType none data = true := rfl

@[simp]
theorem hasType_words (name : String) (data : Json) :
    hasType (some (.words name)) data =
      if name = "integer" then data.isInteger else name == data.typeName := by
  have same_iff : (CodePoints.ofString name == CodePoints.ofString data.typeName) =
      (name == data.typeName) := by
    rw [Bool.eq_iff_iff, beq_iff_eq, beq_iff_eq, ofString_injective]
  simp [hasType, Json.words, same_iff]

theorem typeName_ne_integer (data : Json) : data.typeName ≠ "integer" := by
  cases data <;> simp [Json.typeName]

private theorem hasType_iff (keywords : List (CodePoints × Json)) (data : Json) :
    hasType (keyword? "type" keywords) data = true ↔ HasType keywords data := by
  cases type_eq : keyword? "type" keywords with
  | none => simp [hasType, HasType, type_eq]
  | some declared =>
      cases declared with
      | string name =>
          by_cases whole : name = CodePoints.ofString "integer"
          · subst whole
            simp [hasType, HasType, type_eq, Json.words, ofString_injective, Json.isInteger_iff,
              (typeName_ne_integer data).symm]
          · simp [hasType, HasType, type_eq, Json.words, whole]
      | _ => simp [hasType, HasType, type_eq, Json.words]

theorem typeViolation?_eq_none_iff (location : Location) (keywords : List (CodePoints × Json))
    (data : Json) : typeViolation? location keywords data = none ↔ HasType keywords data := by
  rw [← hasType_iff, typeViolation?]
  simp

/-- The keywords for the type of a value apply to it, unless it passes as a whole number. -/
theorem Governs.of_hasType {keywords : List (CodePoints × Json)} {data : Json}
    (typed : HasType keywords data) (notWhole : ¬ data.IsWhole) :
    Governs keywords data.typeName := by
  cases type_eq : keyword? "type" keywords with
  | none => exact .inl type_eq
  | some declared =>
      by_cases isNull : declared = .null
      · exact .inr (.inl (type_eq.trans (congrArg some isNull)))
      · rcases typed declared type_eq isNull with same | ⟨_, whole⟩
        · exact .inr (.inr (type_eq.trans (congrArg some same)))
        · exact absurd whole notWhole

private theorem isBelow_iff {length : Nat} {least : Json} {below : Bool}
    (compared : isBelow length least = .ok below) : below = false ↔ Reaches length least := by
  have scaled_length : scaled (length : ℤ) 0 = length := by simp [scaled]
  have decided (a e : ℤ) : (compareScaled length 0 a e == .lt) = false ↔ scaled a e ≤ length := by
    rw [beq_eq_false_iff_ne, ne_eq, compareScaled_eq_lt_iff, scaled_length, not_lt]
  cases least with
  | boolean b =>
      simp only [isBelow, Json.quantity?, Except.ok.injEq] at compared
      rw [← compared, decided, scaled_zero_right, Reaches]
      exact_mod_cast Iff.rfl
  | integer n =>
      simp only [isBelow, Json.quantity?, Except.ok.injEq] at compared
      rw [← compared, decided, scaled_zero_right, Reaches]
      exact_mod_cast Iff.rfl
  | double x =>
      cases x with
      | nan =>
          simp only [isBelow, Json.quantity?, Except.ok.injEq] at compared
          simp [← compared, Reaches]
      | infinite negative =>
          simp only [isBelow, Json.quantity?, Except.ok.injEq] at compared
          simp [← compared, Reaches]
      | finite negative significand exponent =>
          simp only [isBelow, Json.quantity?, Except.ok.injEq] at compared
          rw [← compared, decided, Reaches]
  | _ => simp [isBelow, Json.quantity?] at compared

/-! ## Keywords that look at a value alone -/

section Own

variable {location : Location} {keywords : List (CodePoints × Json)} {data : Json}
  {violations : List Violation}

theorem constantViolations_eq_nil_iff :
    constantViolations location keywords data = [] ↔
      ∀ constant, keyword? "const" keywords = some constant → data.equal constant = true := by
  rw [constantViolations]
  cases keyword? "const" keywords with
  | none => simp
  | some constant => simp

theorem optionViolations_eq_nil_iff
    (returned : optionViolations location keywords data = .ok violations) :
    violations = [] ↔ ∀ value, keyword? "enum" keywords = some value →
      ∃ options, elements value = .ok options ∧ ∃ option ∈ options, data.equal option = true := by
  rw [optionViolations] at returned
  cases enum_eq : keyword? "enum" keywords with
  | none => simp_all
  | some value =>
      rw [enum_eq] at returned
      obtain ⟨options, options_eq, chosen⟩ := bind_eq_ok_iff.mp returned
      have any_iff : options.any data.equal = true ↔
          ∃ option ∈ options, data.equal option = true := List.any_eq_true
      split at chosen
      next accepted =>
        obtain rfl := pure_eq_ok_iff.mp chosen
        simp [options_eq, any_iff.mp accepted]
      next refused =>
        obtain rfl := pure_eq_ok_iff.mp chosen
        simp only [List.cons_ne_self, false_iff]
        intro met
        obtain ⟨others, others_eq, exists_option⟩ := met value rfl
        rw [options_eq, Except.ok.injEq] at others_eq
        subst others_eq
        exact refused (any_iff.mpr exists_option)

theorem lengthViolations_eq_nil_iff {least : Option Json} {length : Nat}
    {cause : Nat → Json → Cause}
    (returned : lengthViolations location least length cause = .ok violations) :
    violations = [] ↔ ∀ value, least = some value → Reaches length value := by
  rw [lengthViolations.eq_def] at returned
  split at returned
  · simp_all
  · simp_all [Reaches]
  next value _ =>
    obtain ⟨below, compared, chosen⟩ := bind_eq_ok_iff.mp returned
    have below_iff := isBelow_iff compared
    cases below with
    | true =>
        obtain rfl := pure_eq_ok_iff.mp chosen
        simpa using below_iff
    | false =>
        obtain rfl := pure_eq_ok_iff.mp chosen
        simpa using below_iff

private theorem patternViolations_eq_nil_iff {pattern : Option Json} {points : CodePoints}
    (returned : patternViolations location pattern points = .ok violations) :
    violations = [] ↔ ∀ text, pattern = some (.string text) → text ≠ [] →
      ∃ parsed, Pattern.parse text = .ok parsed ∧ parsed.occursIn points = true := by
  cases pattern with
  | none => simp_all [patternViolations]
  | some pattern =>
      cases pattern with
      | string text =>
          by_cases empty : text = []
          · subst empty
            simp_all [patternViolations, Json.isGiven]
          · simp only [patternViolations, Json.isGiven, List.isEmpty_eq_false_iff.mpr empty]
              at returned
            cases parse_eq : Pattern.parse text with
            | error error => simp [parse_eq] at returned
            | ok parsed =>
                rw [parse_eq] at returned
                cases occurs_eq : parsed.occursIn points with
                | true =>
                    simp_all
                | false =>
                    obtain rfl : [_] = violations := by simpa [occurs_eq] using returned
                    simp [empty, parse_eq, occurs_eq]
      | _ =>
          simp only [patternViolations] at returned
          split at returned
          · simp_all
          · cases returned

theorem ownViolations_eq_nil_iff
    (returned : ownViolations location keywords data = .ok violations) :
    violations = [] ∧ HasType keywords data ↔ Suits keywords data := by
  obtain ⟨options, options_eq, rest⟩ := bind_eq_ok_iff.mp returned
  have options_iff := optionViolations_eq_nil_iff options_eq
  have constants_iff : constantViolations location keywords data = [] ↔ _ :=
    constantViolations_eq_nil_iff
  cases data with
  | string points =>
      obtain ⟨lengths, lengths_eq, rest⟩ := bind_eq_ok_iff.mp rest
      obtain ⟨patterns, patterns_eq, rest⟩ := bind_eq_ok_iff.mp rest
      have lengths_iff := lengthViolations_eq_nil_iff lengths_eq
      have patterns_iff := patternViolations_eq_nil_iff patterns_eq
      obtain rfl := pure_eq_ok_iff.mp rest
      simp only [List.append_eq_nil_iff, options_iff, constants_iff, lengths_iff, patterns_iff]
      constructor
      · rintro ⟨⟨⟨⟨constant, option⟩, length⟩, pattern⟩, type⟩
        refine ⟨type, constant, option, ?_, ?_⟩
        · rintro _ least ⟨⟩ found
          exact length least found
        · rintro _ text ⟨⟩ found given
          exact pattern text found given
      · intro suits
        exact ⟨⟨⟨⟨suits.constant, suits.option⟩, fun least found => suits.length _ _ rfl found⟩,
          fun text found given => suits.pattern _ _ rfl found given⟩, suits.type⟩
  | _ =>
      obtain rfl := pure_eq_ok_iff.mp rest
      simp only [List.append_eq_nil_iff, options_iff, constants_iff]
      constructor
      · rintro ⟨⟨constant, option⟩, type⟩
        exact ⟨type, constant, option, by simp, by simp⟩
      · intro suits
        exact ⟨⟨suits.constant, suits.option⟩, suits.type⟩

end Own

/-! ## Keys -/

section Keys

variable {location : Location} {keywords members : List (CodePoints × Json)}

theorem requiredViolation_eq_nil_iff {base : Text} {key : Json} :
    requiredViolation base location members key = .ok [] ↔ HasKey members key := by
  cases key with
  | string name =>
      simp [requiredViolation, HasKey, Option.isSome_iff_exists]
  | array items => simp [requiredViolation, HasKey]
  | object members => simp [requiredViolation, HasKey]
  | _ =>
      rw [requiredViolation]
      · split <;> simp [HasKey]
      all_goals simp

theorem properties_eq {declared : List (CodePoints × Json)}
    (returned : properties keywords = .ok declared) : declaredMembers keywords = declared := by
  rw [properties] at returned
  rw [declaredMembers]
  split at returned
  · simp_all
  · simp_all
  · split at returned
    · cases returned
    · simp_all

theorem isClosed_iff :
    isClosed keywords = true ↔
      keyword? "additionalProperties" keywords = some (.boolean false) := by
  rw [isClosed]
  split
  · simp_all
  · simp_all

theorem undeclaredViolations_eq_nil_iff {declared : List (CodePoints × Json)} :
    undeclaredViolations location keywords declared members = [] ↔
      (keyword? "additionalProperties" keywords = some (.boolean false) → declared ≠ [] →
        ∀ entry ∈ members, ∃ subschema, Json.member? entry.1 declared = some subschema) := by
  rw [undeclaredViolations, ← isClosed_iff]
  split
  next applies =>
    simp_all [List.filter_eq_nil_iff, ← Option.ne_none_iff_exists']
  next idle =>
    simp_all

end Keys

end Schema
end DiscoveryFiles
