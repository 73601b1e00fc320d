import DiscoveryFiles.Proofs.Pattern.Search
import DiscoveryFiles.Proofs.Schema.Demand

/-!
# What a schema accepts

A schema is read off keyword by keyword.  For each keyword there is a law which says that its
evaluation comes to an end and on what condition it finds nothing; together they tell what values a
given schema accepts.
-/

namespace DiscoveryFiles

namespace Json

variable {data : Json}

private theorem typeName_eq_string_iff :
    data.typeName = "string" ↔ ∃ points, data = .string points := by
  cases data <;> simp [typeName]

private theorem typeName_eq_array_iff : data.typeName = "array" ↔ ∃ items, data = .array items := by
  cases data <;> simp [typeName]

private theorem typeName_eq_object_iff :
    data.typeName = "object" ↔ ∃ members, data = .object members := by
  cases data <;> simp [typeName]

private theorem equal_words_iff {name : String} :
    data.equal (.words name) = true ↔ data = .words name := by
  cases data <;> simp [equal, words, isNan, same, sameAtom, quantity?]

end Json

namespace Schema

/-! ## Evaluations that end -/

/-- An evaluation comes to an end, and finds nothing exactly on a condition. -/
def Settles (outcome : Except Fault (List Violation)) (condition : Prop) : Prop :=
  ∃ found, outcome = .ok found ∧ (found = [] ↔ condition)

namespace Settles

variable {first second : Except Fault (List Violation)} {p q : Prop}

theorem congr (settles : Settles first p) (same : p ↔ q) : Settles first q := by
  obtain ⟨found, found_eq, found_iff⟩ := settles
  exact ⟨found, found_eq, found_iff.trans same⟩

theorem nothing : Settles (.ok []) True :=
  ⟨[], rfl, by simp⟩

private theorem violated (violation : Violation) : Settles (.ok [violation]) False :=
  ⟨[violation], rfl, by simp⟩

/-- Two evaluations in a row find nothing when neither does. -/
theorem append (settles : Settles first p) (others : Settles second q) :
    Settles (do
      let found ← first
      let rest ← second
      return found ++ rest) (p ∧ q) := by
  obtain ⟨found, rfl, found_iff⟩ := settles
  obtain ⟨rest, rfl, rest_iff⟩ := others
  refine ⟨found ++ rest, rfl, ?_⟩
  rw [List.append_eq_nil_iff, found_iff, rest_iff]

/-- A loop finds nothing when no element leads to a violation. -/
theorem gather {α : Type} {violationsOf : α → Except Fault (List Violation)}
    (condition : α → Prop) {elements : List α}
    (each : ∀ element ∈ elements, Settles (violationsOf element) (condition element)) :
    Settles (gather violationsOf elements) (∀ element ∈ elements, condition element) := by
  induction elements with
  | nil => exact nothing.congr (by simp)
  | cons element others induction =>
      obtain ⟨first, rest⟩ := List.forall_mem_cons.mp each
      exact (first.append (induction rest)).congr (by simp)

end Settles

/-! ## Single keywords -/

section Keyword

variable {location : Location}

/-- A least length that is a whole number can be compared with. -/
theorem settles_lengthViolations (least length : Nat) (cause : Nat → Json → Cause) :
    Settles (lengthViolations location (some (.integer least)) length cause) (least ≤ length) := by
  have compared :
      isBelow length (.integer least) = .ok (compareScaled length 0 least 0 == .lt) := rfl
  obtain ⟨found, found_eq⟩ : ∃ found,
      lengthViolations location (some (.integer least)) length cause = .ok found := by
    simp only [lengthViolations, compared, ok_bind]
    split <;> exact ⟨_, rfl⟩
  refine ⟨found, found_eq, (lengthViolations_eq_nil_iff found_eq).trans ?_⟩
  simp [Reaches]

theorem settles_no_length (length : Nat) (cause : Nat → Json → Cause) :
    Settles (lengthViolations location none length cause) True :=
  .nothing

/-- A pattern that can be read and is regular asks for one of its stretches. -/
theorem settles_patternViolations {words : String} {pattern : Pattern}
    (read : Pattern.parse (CodePoints.ofString words) = .ok pattern)
    (regular : pattern.isRegular = true) (given : words ≠ "") (points : CodePoints) :
    Settles (patternViolations location (some (.words words)) points)
      (Pattern.Matches words points) := by
  have isGiven : (Json.string (CodePoints.ofString words)).isGiven = true := by
    cases letters : words.toList with
    | nil => exact absurd (String.toList_eq_nil_iff.mp letters) given
    | cons => simp [Json.isGiven, CodePoints.ofString, CodePoints.ofText, letters]
  rw [Pattern.matches_iff_occursIn read regular]
  simp only [Json.words, patternViolations, isGiven, read, Bool.not_true, Bool.false_eq_true,
    if_false]
  cases pattern.occursIn points with
  | true => exact Settles.nothing.congr (by simp)
  | false => exact (Settles.violated _).congr (by simp)

theorem settles_no_pattern (points : CodePoints) :
    Settles (patternViolations location none points) True :=
  .nothing

/-- Options that are listed are gone through for an equal. -/
theorem settles_optionViolations {keywords : List (CodePoints × Json)} {options : List Json}
    (location : Location) (listed : keyword? "enum" keywords = some (.array options))
    (data : Json) :
    Settles (optionViolations location keywords data)
      (∃ option ∈ options, data.equal option = true) := by
  have any_iff : options.any data.equal = true ↔
      ∃ option ∈ options, data.equal option = true := List.any_eq_true
  rw [← any_iff]
  simp only [optionViolations, listed, elements, ok_bind]
  cases options.any data.equal with
  | true => exact Settles.nothing.congr (by simp)
  | false => exact (Settles.violated _).congr (by simp)

end Keyword

/-! ## Nodes -/

/-- A schema accepts the values with a property and no others, wherever its evaluation starts. -/
def Accepts (context : Context) (followed : List CodePoints) (schema : Json)
    (property : Json → Prop) : Prop :=
  ∀ location data, Settles (check context location followed schema data) (property data)

theorem Accepts.congr {context : Context} {followed : List CodePoints} {schema : Json}
    {property other : Json → Prop} (accepts : Accepts context followed schema property)
    (same : ∀ data, property data ↔ other data) : Accepts context followed schema other :=
  fun location data => (accepts location data).congr (same data)

/-- The declared members of an object are accepted when the members have a property. -/
def AcceptsMembers (context : Context) (declared : List (CodePoints × Json))
    (property : List (CodePoints × Json) → Prop) : Prop :=
  ∀ location members, Settles (checkMembers context location members declared) (property members)

/-- A node has neither alternatives, nor a reference, nor values to compare with. -/
structure IsPlain (keywords : List (CodePoints × Json)) : Prop where
  /-- There are no alternatives. -/
  alternatives : keyword? "oneOf" keywords = none
  /-- There is no reference. -/
  reference : keyword? "$ref" keywords = none
  /-- There is no constant. -/
  constant : keyword? "const" keywords = none
  /-- There are no options. -/
  options : keyword? "enum" keywords = none

/-- A node is evaluated keyword by keyword, without alternatives or a reference in front. -/
structure IsDirect (keywords : List (CodePoints × Json)) : Prop where
  /-- There are no alternatives. -/
  alternatives : keyword? "oneOf" keywords = none
  /-- There is no reference. -/
  reference : keyword? "$ref" keywords = none

/-- A node for objects with required keys and declared members, which is open to others. -/
structure IsRecord (keywords : List (CodePoints × Json)) (keys : List CodePoints)
    (declared : List (CodePoints × Json)) : Prop where
  /-- There is nothing in front and no value to compare with. -/
  plain : IsPlain keywords
  /-- The type is that of objects. -/
  typed : keyword? "type" keywords = some (.words "object")
  /-- The keys are required. -/
  required : requiredKeys keywords = .ok (keys.map .string)
  /-- The members are declared. -/
  declares : properties keywords = .ok declared
  /-- Other members are allowed. -/
  isOpen : keyword? "additionalProperties" keywords = none

theorem IsPlain.isDirect {keywords : List (CodePoints × Json)} (plain : IsPlain keywords) :
    IsDirect keywords :=
  ⟨plain.alternatives, plain.reference⟩

section Node

variable {context : Context} {followed : List CodePoints} {keywords : List (CodePoints × Json)}

theorem check_eq_of_isDirect (direct : IsDirect keywords) (location : Location) (data : Json) :
    check context location followed (.object keywords) data =
      match typeViolation? location keywords data with
      | some violation => .ok [violation]
      | none => do
          let own ← ownViolations location keywords data
          let inner ← checkInside context location keywords data
          return own ++ inner := by
  rewrite [check, direct.alternatives, checkAlternatives, direct.reference]
  rfl

private theorem settles_check_of_hasType {location : Location} {data : Json} {own inner : Prop}
    (direct : IsDirect keywords) (typed : HasType keywords data)
    (own_settles : Settles (ownViolations location keywords data) own)
    (inner_settles : Settles (checkInside context location keywords data) inner) :
    Settles (check context location followed (.object keywords) data) (own ∧ inner) := by
  rw [check_eq_of_isDirect direct, (typeViolation?_eq_none_iff location keywords data).mpr typed]
  exact own_settles.append inner_settles

private theorem settles_check_of_not_hasType {location : Location} {data : Json}
    (direct : IsDirect keywords) (differs : ¬ HasType keywords data) :
    Settles (check context location followed (.object keywords) data) False := by
  rw [check_eq_of_isDirect direct]
  rw [← typeViolation?_eq_none_iff location] at differs
  cases violation_eq : typeViolation? location keywords data with
  | some violation => exact Settles.violated violation
  | none => exact absurd violation_eq differs

private theorem hasType_iff_typeName {type : String} (data : Json)
    (typed : keyword? "type" keywords = some (.words type)) (exact : type ≠ "integer") :
    HasType keywords data ↔ data.typeName = type := by
  simp [HasType, typed, Json.words, exact, eq_comm]

private theorem settles_own_string {location : Location} {points : CodePoints} {long fits : Prop}
    (plain : IsPlain keywords)
    (length : Settles
      (lengthViolations location (keyword? "minLength" keywords) points.length .shortString) long)
    (pattern : Settles (patternViolations location (keyword? "pattern" keywords) points) fits) :
    Settles (ownViolations location keywords (.string points)) (long ∧ fits) := by
  simp only [ownViolations, optionViolations, constantViolations, plain.options, plain.constant,
    ok_bind, List.nil_append]
  exact length.append pattern

private theorem settles_own_other {location : Location} {data : Json} (plain : IsPlain keywords)
    (other : ∀ points, data ≠ .string points) :
    Settles (ownViolations location keywords data) True := by
  cases data with
  | string points => exact absurd rfl (other points)
  | _ =>
      simp only [ownViolations, optionViolations, constantViolations, plain.options,
        plain.constant, ok_bind, List.nil_append]
      exact .nothing

/-- A value that holds no others is not looked into. -/
theorem settles_inside_other {location : Location} {data : Json}
    (notObject : ∀ members, data ≠ .object members) (notArray : ∀ items, data ≠ .array items) :
    Settles (checkInside context location keywords data) True := by
  rw [checkInside]
  · exact .nothing
  · exact notObject
  · exact notArray

/-- A node of a type is read off at the values of the type alone. -/
theorem accepts_of_type {type : String} {property : Json → Prop} (direct : IsDirect keywords)
    (typed : keyword? "type" keywords = some (.words type)) (ordinary : type ≠ "integer")
    (typed_property : ∀ data, property data → data.typeName = type)
    (settles : ∀ location data, data.typeName = type → ∃ own inner,
      Settles (ownViolations location keywords data) own ∧
        Settles (checkInside context location keywords data) inner ∧
          (own ∧ inner ↔ property data)) :
    Accepts context followed (.object keywords) property := by
  intro location data
  have type_iff := hasType_iff_typeName data typed ordinary
  by_cases same : data.typeName = type
  · obtain ⟨own, inner, own_settles, inner_settles, both_iff⟩ := settles location data same
    exact (settles_check_of_hasType direct (type_iff.mpr same) own_settles inner_settles).congr
      both_iff
  · refine (settles_check_of_not_hasType direct (mt type_iff.mp same)).congr ?_
    exact iff_of_false id fun holds => same (typed_property data holds)

/-- A node for strings with a least length and a pattern, as far as it has them. -/
theorem accepts_string (long fits : CodePoints → Prop) (plain : IsPlain keywords)
    (typed : keyword? "type" keywords = some (.words "string"))
    (length : ∀ location points, Settles
      (lengthViolations location (keyword? "minLength" keywords) points.length .shortString)
      (long points))
    (pattern : ∀ location points,
      Settles (patternViolations location (keyword? "pattern" keywords) points) (fits points)) :
    Accepts context followed (.object keywords)
      fun data => ∃ points, data = .string points ∧ long points ∧ fits points := by
  refine accepts_of_type plain.isDirect typed (by decide) ?_ fun location data type_eq => ?_
  · rintro _ ⟨points, rfl, -⟩
    rfl
  · obtain ⟨points, rfl⟩ := Json.typeName_eq_string_iff.mp type_eq
    exact ⟨_, True, settles_own_string plain (length location points) (pattern location points),
      settles_inside_other (by simp) (by simp), by simp⟩

/-- A node for strings that are among some words. -/
theorem accepts_choice {choices : List String} (direct : IsDirect keywords)
    (typed : keyword? "type" keywords = some (.words "string"))
    (listed : keyword? "enum" keywords = some (.array (choices.map .words)))
    (constant : keyword? "const" keywords = none) (length : keyword? "minLength" keywords = none)
    (pattern : keyword? "pattern" keywords = none) :
    Accepts context followed (.object keywords)
      fun data => ∃ choice ∈ choices, data = .words choice := by
  refine accepts_of_type direct typed (by decide) ?_ fun location data type_eq => ?_
  · rintro _ ⟨choice, -, rfl⟩
    rfl
  · obtain ⟨points, rfl⟩ := Json.typeName_eq_string_iff.mp type_eq
    have own : Settles (ownViolations location keywords (.string points))
        (∃ option ∈ choices.map Json.words, (Json.string points).equal option = true) := by
      obtain ⟨found, found_eq, found_iff⟩ :=
        settles_optionViolations location listed (.string points)
      simp only [ownViolations, found_eq, constantViolations, constant, length, pattern,
        lengthViolations, patternViolations, ok_bind, List.append_nil, List.nil_append]
      exact ⟨found, rfl, found_iff⟩
    refine ⟨_, True, own, settles_inside_other (by simp) (by simp), ?_⟩
    simp [Json.equal_words_iff]

/-- A node for whole numbers. -/
theorem accepts_whole (plain : IsPlain keywords)
    (typed : keyword? "type" keywords = some (.words "integer")) :
    Accepts context followed (.object keywords) Json.IsWhole := by
  intro location data
  have type_iff : HasType keywords data ↔ data.IsWhole := by
    simp [HasType, typed, Json.words, (typeName_ne_integer data).symm]
  by_cases whole : data.IsWhole
  · have own : Settles (ownViolations location keywords data) True :=
      settles_own_other plain (by rintro _ rfl; exact whole)
    have inside : Settles (checkInside context location keywords data) True :=
      settles_inside_other (by rintro _ rfl; exact whole) (by rintro _ rfl; exact whole)
    exact (settles_check_of_hasType plain.isDirect (type_iff.mpr whole) own inside).congr
      (by simp [whole])
  · exact (settles_check_of_not_hasType plain.isDirect (mt type_iff.mp whole)).congr
      (by simp [whole])

/-- A node for arrays with a schema for their items, and a least number of them as far as it has
one. -/
theorem accepts_array {items : Json} {property : Json → Prop} (long : Nat → Prop)
    (plain : IsPlain keywords) (typed : keyword? "type" keywords = some (.words "array"))
    (length : ∀ location count, Settles
      (lengthViolations location (keyword? "minItems" keywords) count .fewItems) (long count))
    (schema : keyword? "items" keywords = some items) (each : Accepts context [] items property) :
    Accepts context followed (.object keywords) fun data =>
      ∃ values, data = .array values ∧ long values.length ∧ ∀ value ∈ values, property value := by
  refine accepts_of_type plain.isDirect typed (by decide) ?_ fun location data type_eq => ?_
  · rintro _ ⟨values, rfl, -⟩
    rfl
  · obtain ⟨values, rfl⟩ := Json.typeName_eq_array_iff.mp type_eq
    have items_settle : Settles
        (checkItems context location items 0 values) (∀ value ∈ values, property value) := by
      rw [checkItems_eq_gather]
      refine (Settles.gather (fun entry => property entry.1)
        fun entry _ => each _ entry.1).congr ?_
      rw [← List.forall_mem_map (f := Prod.fst), List.zipIdx_map_fst]
    have inside : Settles (checkInside context location keywords (.array values))
        (long values.length ∧ ∀ value ∈ values, property value) := by
      rw [checkInside, schema, Option.getD_some]
      exact (length location values.length).append items_settle
    exact ⟨True, _, settles_own_other plain (by simp), inside, by simp⟩

private theorem requiredViolations_strings (base : Text) (location : Location)
    (members : List (CodePoints × Json)) (keys : List CodePoints) :
    requiredViolations base location members (keys.map .string) =
      .ok ((keys.filter fun key => (Json.member? key members).isNone).map fun key =>
        ⟨location, .missing (.string key)⟩) := by
  induction keys with
  | nil => rfl
  | cons key keys induction =>
      simp only [List.map_cons, requiredViolations, requiredViolation, induction]
      cases member_eq : Json.member? key members <;> simp [member_eq, pure, Except.pure]

/-- An object is evaluated by a record in two steps: each absent key is reported at the object, and
then its declared members are looked at. -/
theorem check_eq_of_isRecord {keys : List CodePoints} {declared : List (CodePoints × Json)}
    (record : IsRecord keywords keys declared) (location : Location)
    (members : List (CodePoints × Json)) :
    check context location followed (.object keywords) (.object members) = do
      let inner ← checkMembers context location members declared
      return ((keys.filter fun key => (Json.member? key members).isNone).map fun key =>
        ⟨location, .missing (.string key)⟩) ++ inner := by
  have typed : typeViolation? location keywords (.object members) = none := by
    simp [typeViolation?, record.typed, Json.typeName]
  have own : ownViolations location keywords (.object members) = .ok [] := by
    simp [ownViolations, optionViolations, constantViolations, record.plain.options,
      record.plain.constant]
  have undeclared : undeclaredViolations location keywords declared members = [] := by
    simp [undeclaredViolations, isClosed, record.isOpen]
  rw [check_eq_of_isDirect record.plain.isDirect, typed]
  simp only [own, checkInside, record.required, record.declares, requiredViolations_strings,
    undeclared, ok_bind, List.append_nil, List.nil_append]
  cases checkMembers context location members declared <;> rfl

/-- A record accepts the objects that have its keys and whose declared members are accepted. -/
theorem accepts_object {keys : List CodePoints} {declared : List (CodePoints × Json)}
    {property : List (CodePoints × Json) → Prop} (record : IsRecord keywords keys declared)
    (each : AcceptsMembers context declared property) :
    Accepts context followed (.object keywords) fun data =>
      ∃ members, data = .object members ∧ (∀ key ∈ keys, HasKey members (.string key)) ∧
        property members := by
  intro location data
  by_cases isObject : ∃ members, data = .object members
  · obtain ⟨members, rfl⟩ := isObject
    have keys_settle : Settles
        (.ok ((keys.filter fun key => (Json.member? key members).isNone).map fun key =>
          ⟨location, .missing (.string key)⟩))
        (∀ key ∈ keys, HasKey members (.string key)) := by
      refine ⟨_, rfl, ?_⟩
      simp [HasKey, ← Option.ne_none_iff_exists', List.filter_eq_nil_iff]
    rw [check_eq_of_isRecord record]
    exact (keys_settle.append (each location members)).congr (by simp)
  · have differs : ¬ HasType keywords data := by
      rw [hasType_iff_typeName data record.typed (by decide), Json.typeName_eq_object_iff]
      exact isObject
    refine (settles_check_of_not_hasType record.plain.isDirect differs).congr ?_
    refine iff_of_false id ?_
    rintro ⟨members, same, -⟩
    exact isObject ⟨members, same⟩

/-- A node that refers to a definition is evaluated as the definition. -/
theorem check_eq_of_reference {reference schema : Json} {name : CodePoints}
    (alternatives : keyword? "oneOf" keywords = none)
    (refers : keyword? "$ref" keywords = some reference)
    (target : target? context.root reference = .ok (some (name, schema)))
    (fresh : name ∉ followed) (location : Location) (data : Json) :
    check context location followed (.object keywords) data =
      check context location (name :: followed) schema data := by
  rw [check, alternatives, checkAlternatives, refers]
  exact follow_eq_check target fresh

/-- Alternatives are gone through up to the first that accepts. -/
theorem anyAccepts_of_accepts {schemas : List Json} {accepted : List (Json → Prop)}
    (each : List.Forall₂ (Accepts context followed) schemas accepted) (location : Location)
    (data : Json) :
    ∃ found, anyAccepts context location followed schemas data = .ok found ∧
      (found = true ↔ ∃ property ∈ accepted, property data) := by
  induction each with
  | nil => exact ⟨false, by rw [anyAccepts], by simp⟩
  | @cons schema property schemas others accepts rest induction =>
      obtain ⟨violations, violations_eq, nil_iff⟩ := accepts location data
      rw [anyAccepts, violations_eq]
      cases violations with
      | nil => exact ⟨true, rfl, by simp [nil_iff.mp rfl]⟩
      | cons violation violations =>
          obtain ⟨found, found_eq, found_iff⟩ := induction
          have refused : ¬ property data := fun holds => List.cons_ne_nil _ _ (nil_iff.mpr holds)
          exact ⟨found, found_eq, by simp [found_iff, refused]⟩

private theorem checkItems_null (location : Location) (index : Nat) (items : List Json) :
    checkItems context location .null index items = .ok [] := by
  induction items generalizing index with
  | nil => rw [checkItems]
  | cons item items induction =>
      rw [checkItems, check, induction]
      · rfl
      · simp

/-- Apart from its alternatives, a node of alternatives alone finds nothing. -/
theorem alternatives_silent (context : Context) (alternatives : Json) (location : Location)
    (data : Json) :
    ownViolations location [(CodePoints.ofString "oneOf", alternatives)] data = .ok [] ∧
      checkInside context location [(CodePoints.ofString "oneOf", alternatives)] data =
        .ok [] := by
  constructor
  · cases data <;>
      simp [ownViolations, optionViolations, constantViolations, lengthViolations,
        patternViolations]
  · cases data <;>
      simp [checkInside, requiredKeys, properties, requiredViolations, checkMembers,
        undeclaredViolations, lengthViolations, checkItems_null]

/-- A value that no alternative accepts is reported as a whole. -/
theorem check_alternatives_of_refused {schemas : List Json} {accepted : List (Json → Prop)}
    (each : List.Forall₂ (Accepts context followed) schemas accepted) (location : Location)
    {data : Json} (refused : ∀ property ∈ accepted, ¬ property data) :
    check context location followed
        (.object [(CodePoints.ofString "oneOf", .array schemas)]) data =
      .ok [⟨location, .noAlternative⟩] := by
  obtain ⟨found, found_eq, found_iff⟩ := anyAccepts_of_accepts each location data
  have none_accepts : found = false := by
    rw [Bool.eq_false_iff, ne_eq, found_iff]
    exact fun ⟨property, member, holds⟩ => refused property member holds
  rw [check]
  simp only [keyword?_cons, if_true, checkAlternatives, found_eq, none_accepts]

/-- A node of alternatives alone accepts what one of them accepts. -/
theorem accepts_alternatives {schemas : List Json} {accepted : List (Json → Prop)}
    (each : List.Forall₂ (Accepts context followed) schemas accepted) :
    Accepts context followed (.object [(CodePoints.ofString "oneOf", .array schemas)])
      fun data => ∃ property ∈ accepted, property data := by
  intro location data
  by_cases some_accepts : ∃ property ∈ accepted, property data
  · obtain ⟨found, found_eq, found_iff⟩ := anyAccepts_of_accepts each location data
    obtain ⟨own_eq, inside_eq⟩ := alternatives_silent context (.array schemas) location data
    rw [check]
    simp only [keyword?_cons, if_true, checkAlternatives, found_eq, found_iff.mpr some_accepts]
    have settles : Settles (.ok []) (∃ property ∈ accepted, property data) :=
      Settles.nothing.congr (iff_of_true trivial some_accepts)
    simpa [typeViolation?, own_eq, inside_eq] using settles
  · have refused : ∀ property ∈ accepted, ¬ property data :=
      fun property member holds => some_accepts ⟨property, member, holds⟩
    rw [check_alternatives_of_refused each location refused]
    exact (Settles.violated _).congr (by simpa using some_accepts)

theorem acceptsMembers_nil : AcceptsMembers context [] fun _ => True := by
  intro location members
  rw [checkMembers]
  exact .nothing

theorem acceptsMembers_cons {name : CodePoints} {schema : Json} {property : Json → Prop}
    {declared : List (CodePoints × Json)} {others : List (CodePoints × Json) → Prop}
    (accepts : Accepts context [] schema property)
    (rest : AcceptsMembers context declared others) :
    AcceptsMembers context ((name, schema) :: declared) fun members =>
      (∀ value, Json.member? name members = some value → property value) ∧ others members := by
  intro location members
  rw [checkMembers]
  refine Settles.append ?_ (rest location members)
  cases Json.member? name members with
  | none =>
      rw [checkMember]
      exact Settles.nothing.congr (by simp)
  | some value =>
      rw [checkMember]
      exact (accepts _ value).congr (by simp)

end Node

end Schema
end DiscoveryFiles
