import DiscoveryFiles.Proofs.Json.Member
import DiscoveryFiles.Proofs.Schema.Conformance

/-!
# Where violations come from

An evaluation reports nothing that no keyword asks for.  Every violation has a cause that stems from
a keyword of one of the nodes which the evaluation may come to.
-/

namespace DiscoveryFiles

namespace Json

mutual

/-- Whether all objects in a value pass a test. -/
def everyObject (test : List (CodePoints × Json) → Bool) : Json → Bool
  | object members => test members && everyInMembers test members
  | array items => everyInItems test items
  | _ => true

/-- Whether all objects in the items of an array pass a test. -/
def everyInItems (test : List (CodePoints × Json) → Bool) : List Json → Bool
  | [] => true
  | item :: items => everyObject test item && everyInItems test items

/-- Whether all objects in the members of an object pass a test. -/
def everyInMembers (test : List (CodePoints × Json) → Bool) : List (CodePoints × Json) → Bool
  | [] => true
  | (_, value) :: members => everyObject test value && everyInMembers test members

end

section EveryObject

variable {test : List (CodePoints × Json) → Bool}

private theorem everyInItems_iff {items : List Json} :
    everyInItems test items = true ↔ ∀ item ∈ items, everyObject test item = true := by
  induction items with
  | nil => simp [everyInItems]
  | cons item items induction => simp [everyInItems, induction]

theorem everyInMembers_iff {members : List (CodePoints × Json)} :
    everyInMembers test members = true ↔
      ∀ entry ∈ members, everyObject test entry.2 = true := by
  induction members with
  | nil => simp [everyInMembers]
  | cons entry members induction => simp [everyInMembers, induction]

theorem everyObject_of_mem_items {items : List Json} {item : Json}
    (every : (array items).everyObject test = true) (member : item ∈ items) :
    item.everyObject test = true := by
  rw [everyObject] at every
  exact everyInItems_iff.mp every item member

theorem everyObject_of_mem_members {members : List (CodePoints × Json)}
    {entry : CodePoints × Json} (every : (object members).everyObject test = true)
    (member : entry ∈ members) : entry.2.everyObject test = true := by
  rw [everyObject, Bool.and_eq_true] at every
  exact everyInMembers_iff.mp every.2 entry member

theorem everyObject_of_member? {name : CodePoints} {members : List (CodePoints × Json)}
    {value : Json} (every : everyInMembers test members = true)
    (found : member? name members = some value) : everyObject test value = true :=
  everyInMembers_iff.mp every (name, value) (mem_of_member? found)

end EveryObject

end Json

namespace Schema

/-! ## Causes and keywords -/

/-- What is wrong with a value is something that the keywords of a node ask for. -/
def Cause.StemsFrom (root : Json) (keywords : List (CodePoints × Json)) : Cause → Prop
  | noAlternative => ∃ alternatives, keyword? "oneOf" keywords = some alternatives
  | unresolved reference =>
      keyword? "$ref" keywords = some reference ∧ target? root reference = .ok none
  | wrongType declared actual =>
      keyword? "type" keywords = some declared ∧ ∃ data : Json, data.typeName = actual
  | notConstant constant _ => keyword? "const" keywords = some constant
  | notOption options _ =>
      ∃ listed, keyword? "enum" keywords = some listed ∧ elements listed = .ok options
  | shortString _ least => keyword? "minLength" keywords = some least
  | noMatch pattern => keyword? "pattern" keywords = some (.string pattern)
  | missing key =>
      ∃ listed keys, keyword? "required" keywords = some listed ∧ elements listed = .ok keys ∧
        key ∈ keys
  | undeclared _ => keyword? "additionalProperties" keywords = some (.boolean false)
  | fewItems _ least => keyword? "minItems" keywords = some least

/-! ## How violations arise -/

/-- The evaluation of a schema at a value, which stands at a location, leads to a violation. -/
inductive Arises (root : Json) : Location → Json → Json → Violation → Prop where
  /-- No alternative accepts the value. -/
  | alternatives {location : Location} {keywords : List (CodePoints × Json)}
      {data alternatives : Json} (given : keyword? "oneOf" keywords = some alternatives) :
      Arises root location (.object keywords) data ⟨location, .noAlternative⟩
  /-- The reference leads nowhere. -/
  | unresolved {location : Location} {keywords : List (CodePoints × Json)} {data reference : Json}
      (given : keyword? "$ref" keywords = some reference)
      (nowhere : target? root reference = .ok none) :
      Arises root location (.object keywords) data ⟨location, .unresolved reference⟩
  /-- The reference leads to a schema from which the violation arises. -/
  | reference {location : Location} {keywords : List (CodePoints × Json)}
      {data reference target : Json} {name : CodePoints} {violation : Violation}
      (given : keyword? "$ref" keywords = some reference)
      (resolved : target? root reference = .ok (some (name, target)))
      (inner : Arises root location target data violation) :
      Arises root location (.object keywords) data violation
  /-- The value does not have the declared type. -/
  | type {location : Location} {keywords : List (CodePoints × Json)} {data declared : Json}
      (given : keyword? "type" keywords = some declared)
      (differs : hasType (some declared) data = false) :
      Arises root location (.object keywords) data ⟨location, .wrongType declared data.typeName⟩
  /-- The value is not the constant. -/
  | constant {location : Location} {keywords : List (CodePoints × Json)} {data constant : Json}
      (given : keyword? "const" keywords = some constant)
      (differs : data.equal constant = false) :
      Arises root location (.object keywords) data ⟨location, .notConstant constant data⟩
  /-- The value is none of the options. -/
  | option {location : Location} {keywords : List (CodePoints × Json)} {data listed : Json}
      {options : List Json} (given : keyword? "enum" keywords = some listed)
      (options_eq : elements listed = .ok options) (differs : options.any data.equal = false) :
      Arises root location (.object keywords) data ⟨location, .notOption options data⟩
  /-- The string is too short. -/
  | length {location : Location} {keywords : List (CodePoints × Json)} {points : CodePoints}
      {least : Json} (given : keyword? "minLength" keywords = some least)
      (below : isBelow points.length least = .ok true) :
      Arises root location (.object keywords) (.string points)
        ⟨location, .shortString points.length least⟩
  /-- The string has no match of the pattern. -/
  | pattern {location : Location} {keywords : List (CodePoints × Json)} {points text : CodePoints}
      {parsed : Pattern} (given : keyword? "pattern" keywords = some (.string text))
      (read : Pattern.parse text = .ok parsed) (unmatched : parsed.occursIn points = false) :
      Arises root location (.object keywords) (.string points) ⟨location, .noMatch text⟩
  /-- The object lacks a required key. -/
  | missing {location : Location} {keywords members : List (CodePoints × Json)}
      {keys : List Json} {key : Json} (listed : requiredKeys keywords = .ok keys)
      (member : key ∈ keys)
      (absent : ∀ name, key = .string name → Json.member? name members = none) :
      Arises root location (.object keywords) (.object members) ⟨location, .missing key⟩
  /-- The violation arises from a declared member. -/
  | member {location : Location} {keywords members declared : List (CodePoints × Json)}
      {name : CodePoints} {subschema value : Json} {violation : Violation}
      (declared_eq : properties keywords = .ok declared) (declares : (name, subschema) ∈ declared)
      (given : Json.member? name members = some value)
      (inner : Arises root (location ++ [.member name]) subschema value violation) :
      Arises root location (.object keywords) (.object members) violation
  /-- The object has a member that is not declared. -/
  | undeclared {location : Location} {keywords members declared : List (CodePoints × Json)}
      {entry : CodePoints × Json} (closed : isClosed keywords = true) (member : entry ∈ members)
      (declared_eq : properties keywords = .ok declared)
      (unknown : Json.member? entry.1 declared = none) :
      Arises root location (.object keywords) (.object members) ⟨location, .undeclared entry.1⟩
  /-- The array has too few items. -/
  | items {location : Location} {keywords : List (CodePoints × Json)} {items : List Json}
      {least : Json} (given : keyword? "minItems" keywords = some least)
      (below : isBelow items.length least = .ok true) :
      Arises root location (.object keywords) (.array items)
        ⟨location, .fewItems items.length least⟩
  /-- The violation arises from an item. -/
  | item {location : Location} {keywords : List (CodePoints × Json)} {items : List Json}
      {index : ℕ} {subschema item : Json} {violation : Violation}
      (found : keyword? "items" keywords = some subschema) (given : items[index]? = some item)
      (inner : Arises root (location ++ [.item index]) subschema item violation) :
      Arises root location (.object keywords) (.array items) violation

section Keyword

variable {root : Json} {location : Location} {keywords : List (CodePoints × Json)} {data : Json}
  {found : List Violation} {violation : Violation}

private theorem arises_of_typeViolation?
    (reported : typeViolation? location keywords data = some violation) :
    Arises root location (.object keywords) data violation := by
  simp only [typeViolation?, Option.ite_none_left_eq_some, Option.some.injEq] at reported
  obtain ⟨differs, rfl⟩ := reported
  cases type_eq : keyword? "type" keywords with
  | none => simp [type_eq] at differs
  | some declared =>
      rw [type_eq, Bool.not_eq_true] at differs
      exact .type type_eq differs

private theorem arises_of_mem_constantViolations
    (member : violation ∈ constantViolations location keywords data) :
    Arises root location (.object keywords) data violation := by
  rw [constantViolations] at member
  cases constant_eq : keyword? "const" keywords with
  | none => simp [constant_eq] at member
  | some constant =>
      simp only [constant_eq, List.mem_ite_nil_left, List.mem_singleton, Bool.not_eq_true] at member
      obtain ⟨differs, rfl⟩ := member
      exact .constant constant_eq differs

private theorem arises_of_mem_optionViolations
    (returned : optionViolations location keywords data = .ok found)
    (member : violation ∈ found) : Arises root location (.object keywords) data violation := by
  rw [optionViolations] at returned
  cases enum_eq : keyword? "enum" keywords with
  | none =>
      rw [enum_eq, Except.ok.injEq] at returned
      simp [← returned] at member
  | some listed =>
      rw [enum_eq] at returned
      obtain ⟨options, options_eq, chosen⟩ := bind_eq_ok_iff.mp returned
      split at chosen
      · obtain rfl := pure_eq_ok_iff.mp chosen
        cases member
      next refused =>
        obtain rfl := pure_eq_ok_iff.mp chosen
        obtain rfl := List.mem_singleton.mp member
        exact .option enum_eq options_eq (Bool.not_eq_true _ ▸ refused)

/-- A length that is too small is reported together with the least one. -/
theorem eq_of_mem_lengthViolations {least : Option Json} {length : Nat}
    {cause : Nat → Json → Cause}
    (returned : lengthViolations location least length cause = .ok found)
    (member : violation ∈ found) :
    ∃ bound, least = some bound ∧ isBelow length bound = .ok true ∧
      violation = ⟨location, cause length bound⟩ := by
  rw [lengthViolations.eq_def] at returned
  split at returned
  · simp_all
  · simp_all
  next bound _ =>
    obtain ⟨below, compared, chosen⟩ := bind_eq_ok_iff.mp returned
    cases below with
    | true =>
        obtain rfl := pure_eq_ok_iff.mp chosen
        exact ⟨bound, rfl, compared, List.mem_singleton.mp member⟩
    | false =>
        obtain rfl := pure_eq_ok_iff.mp chosen
        cases member

private theorem arises_of_mem_patternViolations {points : CodePoints}
    (returned : patternViolations location (keyword? "pattern" keywords) points = .ok found)
    (member : violation ∈ found) :
    Arises root location (.object keywords) (.string points) violation := by
  cases pattern_eq : keyword? "pattern" keywords with
  | none =>
      rw [pattern_eq, patternViolations, Except.ok.injEq] at returned
      simp [← returned] at member
  | some pattern =>
      rw [pattern_eq] at returned
      cases pattern with
      | string text =>
          simp only [patternViolations] at returned
          split at returned
          · simp_all
          · split at returned
            · cases returned
            next parsed read =>
              split at returned
              · simp_all
              next unmatched =>
                obtain rfl : [_] = found := Except.ok.inj returned
                obtain rfl := List.mem_singleton.mp member
                exact .pattern pattern_eq read (Bool.not_eq_true _ ▸ unmatched)
      | _ =>
          simp only [patternViolations] at returned
          split at returned
          · simp_all
          · cases returned

private theorem arises_of_mem_ownViolations
    (returned : ownViolations location keywords data = .ok found) (member : violation ∈ found) :
    Arises root location (.object keywords) data violation := by
  obtain ⟨options, options_eq, rest⟩ := bind_eq_ok_iff.mp returned
  cases data with
  | string points =>
      obtain ⟨lengths, lengths_eq, rest⟩ := bind_eq_ok_iff.mp rest
      obtain ⟨patterns, patterns_eq, rest⟩ := bind_eq_ok_iff.mp rest
      obtain rfl := pure_eq_ok_iff.mp rest
      simp only [List.mem_append] at member
      obtain ((inConstants | inOptions) | inLengths) | inPatterns := member
      · exact arises_of_mem_constantViolations inConstants
      · exact arises_of_mem_optionViolations options_eq inOptions
      · obtain ⟨bound, bound_eq, below, rfl⟩ := eq_of_mem_lengthViolations lengths_eq inLengths
        exact .length bound_eq below
      · exact arises_of_mem_patternViolations patterns_eq inPatterns
  | _ =>
      obtain rfl := pure_eq_ok_iff.mp rest
      rcases List.mem_append.mp member with inConstants | inOptions
      · exact arises_of_mem_constantViolations inConstants
      · exact arises_of_mem_optionViolations options_eq inOptions

/-- An absent key is reported at the object that lacks it. -/
theorem eq_of_mem_requiredViolation {base : Text} {members : List (CodePoints × Json)}
    {key : Json} (returned : requiredViolation base location members key = .ok found)
    (member : violation ∈ found) :
    violation = ⟨location, .missing key⟩ ∧
      ∀ name, key = .string name → Json.member? name members = none := by
  cases key with
  | array items => cases returned
  | object entries => cases returned
  | string name =>
      rw [requiredViolation] at returned
      split at returned
      · obtain rfl : [] = found := Except.ok.inj returned
        cases member
      next absent =>
        obtain rfl : [_] = found := Except.ok.inj returned
        simp_all
  | _ =>
      simp only [requiredViolation] at returned
      split at returned
      · cases returned
      · obtain rfl : [_] = found := Except.ok.inj returned
        simp_all

private theorem arises_of_mem_requiredViolations {base : Text} {members : List (CodePoints × Json)}
    {keys : List Json} (keys_eq : requiredKeys keywords = .ok keys)
    (returned : requiredViolations base location members keys = .ok found)
    (member : violation ∈ found) :
    Arises root location (.object keywords) (.object members) violation := by
  rw [requiredViolations_eq_gather] at returned
  obtain ⟨key, listedKey, inner, inner_eq, inInner⟩ := (mem_gather_iff returned).mp member
  obtain ⟨rfl, absent⟩ := eq_of_mem_requiredViolation inner_eq inInner
  exact .missing keys_eq listedKey absent

private theorem arises_of_mem_undeclaredViolations {declared members : List (CodePoints × Json)}
    (declared_eq : properties keywords = .ok declared)
    (member : violation ∈ undeclaredViolations location keywords declared members) :
    Arises root location (.object keywords) (.object members) violation := by
  simp only [undeclaredViolations, Bool.and_eq_true, List.mem_ite_nil_right] at member
  obtain ⟨⟨closed, -⟩, member⟩ := member
  obtain ⟨entry, kept, rfl⟩ := List.mem_map.mp member
  obtain ⟨present, unknown⟩ := List.mem_filter.mp kept
  exact .undeclared closed present declared_eq (Option.isNone_iff_eq_none.mp unknown)

end Keyword

section Node

variable {context : Context} {location : Location} {followed : List CodePoints}
  {keywords : List (CodePoints × Json)} {schema data : Json} {found : List Violation}
  {violation : Violation}

/-- All violations that the evaluation of a node finds arise from it. -/
def FindsArising (context : Context) (location : Location) (followed : List CodePoints)
    (schema data : Json) : Prop :=
  ∀ found, check context location followed schema data = .ok found →
    ∀ violation ∈ found, Arises context.root location schema data violation

private theorem arises_of_mem_follow {reference : Json}
    (given : keyword? "$ref" keywords = some reference)
    (inner : ∀ name target, target? context.root reference = .ok (some (name, target)) →
      name ∉ followed → FindsArising context location (name :: followed) target data)
    (returned : follow context location followed reference data = .ok found)
    (member : violation ∈ found) :
    Arises context.root location (.object keywords) data violation := by
  rw [follow.eq_def] at returned
  split at returned
  · cases returned
  next nowhere =>
    obtain rfl : [_] = found := Except.ok.inj returned
    obtain rfl := List.mem_singleton.mp member
    exact .unresolved given nowhere
  next name target resolved =>
    split at returned
    · cases returned
    next fresh =>
      exact .reference given resolved (inner name target resolved fresh found returned violation
        member)

private theorem arises_of_mem_checkInside
    (ofMembers : ∀ members name value, data = .object members →
      Json.member? name members = some value →
      ∀ location subschema, FindsArising context location [] subschema value)
    (ofItems : ∀ items item, data = .array items → item ∈ items →
      ∀ location subschema, FindsArising context location [] subschema item)
    (returned : checkInside context location keywords data = .ok found)
    (member : violation ∈ found) :
    Arises context.root location (.object keywords) data violation := by
  cases data with
  | object members =>
      rw [checkInside] at returned
      obtain ⟨keys, keys_eq, returned⟩ := bind_eq_ok_iff.mp returned
      obtain ⟨required, required_eq, returned⟩ := bind_eq_ok_iff.mp returned
      obtain ⟨declared, declared_eq, returned⟩ := bind_eq_ok_iff.mp returned
      obtain ⟨inner, inner_eq, returned⟩ := bind_eq_ok_iff.mp returned
      obtain rfl := pure_eq_ok_iff.mp returned
      simp only [List.mem_append] at member
      obtain (inRequired | inInner) | inUndeclared := member
      · exact arises_of_mem_requiredViolations keys_eq required_eq inRequired
      · rw [checkMembers_eq_gather] at inner_eq
        obtain ⟨entry, declares, nested, nested_eq, inNested⟩ :=
          (mem_gather_iff inner_eq).mp inInner
        cases value_eq : Json.member? entry.1 members with
        | none =>
            rw [value_eq, checkMember, Except.ok.injEq] at nested_eq
            simp [← nested_eq] at inNested
        | some value =>
            rw [value_eq, checkMember] at nested_eq
            exact .member declared_eq declares value_eq (ofMembers members entry.1 value rfl
              value_eq _ entry.2 nested nested_eq violation inNested)
      · exact arises_of_mem_undeclaredViolations declared_eq inUndeclared
  | array items =>
      rw [checkInside] at returned
      obtain ⟨lengths, lengths_eq, returned⟩ := bind_eq_ok_iff.mp returned
      obtain ⟨inner, inner_eq, returned⟩ := bind_eq_ok_iff.mp returned
      obtain rfl := pure_eq_ok_iff.mp returned
      rcases List.mem_append.mp member with inLengths | inInner
      · obtain ⟨bound, bound_eq, below, rfl⟩ := eq_of_mem_lengthViolations lengths_eq inLengths
        exact .items bound_eq below
      · rw [checkItems_eq_gather] at inner_eq
        obtain ⟨entry, listed, nested, nested_eq, inNested⟩ := (mem_gather_iff inner_eq).mp inInner
        have item_eq : items[entry.2]? = some entry.1 := List.mem_zipIdx_iff_getElem?.mp listed
        cases items_eq : keyword? "items" keywords with
        | none =>
            -- Without a schema for items, each item is checked under null and has no violations.
            rw [items_eq, Option.getD_none, check, Except.ok.injEq] at nested_eq
            · simp [← nested_eq] at inNested
            · simp
        | some schema =>
            rw [items_eq, Option.getD_some] at nested_eq
            exact .item items_eq item_eq (ofItems items entry.1 rfl (List.mem_of_getElem? item_eq)
              _ schema nested nested_eq violation inNested)
  | _ =>
      rw [checkInside, Except.ok.injEq] at returned
      · simp [← returned] at member
      all_goals simp

/-- At every node, violations arise from it if those of the subevaluations arise from theirs. -/
theorem findsArising_node
    (descends : Descends context (FindsArising context) location followed schema data) :
    FindsArising context location followed schema data := by
  intro found returned violation member
  by_cases isObject : ∃ keywords, schema = .object keywords
  · obtain ⟨keywords, rfl⟩ := isObject
    rw [check] at returned
    split at returned
    · cases returned
    next refused =>
      obtain rfl : [_] = found := Except.ok.inj returned
      obtain rfl := List.mem_singleton.mp member
      cases oneOf_eq : keyword? "oneOf" keywords with
      | none =>
          rw [oneOf_eq, checkAlternatives] at refused
          cases refused
      | some alternatives => exact .alternatives oneOf_eq
    · split at returned
      next reference given =>
        exact arises_of_mem_follow given (descends.reference reference) returned member
      · split at returned
        next reported =>
          obtain rfl : [_] = found := Except.ok.inj returned
          obtain rfl := List.mem_singleton.mp member
          exact arises_of_typeViolation? reported
        · obtain ⟨own, own_eq, returned⟩ := bind_eq_ok_iff.mp returned
          obtain ⟨inner, inner_eq, returned⟩ := bind_eq_ok_iff.mp returned
          obtain rfl := pure_eq_ok_iff.mp returned
          rcases List.mem_append.mp member with inOwn | inInner
          · exact arises_of_mem_ownViolations own_eq inOwn
          · exact arises_of_mem_checkInside descends.members descends.items inner_eq inInner
  · rw [check, Except.ok.injEq] at returned
    · simp [← returned] at member
    · exact fun keywords same => isObject ⟨keywords, same⟩

/-- Every violation that an evaluation finds arises from the schema at the value. -/
theorem arises_of_mem_check
    (returned : check context location followed schema data = .ok found)
    (member : violation ∈ found) : Arises context.root location schema data violation :=
  check_induction context (fun _ _ _ _ => findsArising_node) location followed schema data found
    returned violation member

end Node

/-! ## Nodes that an evaluation comes to -/

/-- An evaluation that starts at one of some nodes comes to no others. -/
structure Closed (root : Json) (nodes : Json → Prop) : Prop where
  /-- Alternatives lead to some of them. -/
  alternatives : ∀ keywords subschemas, nodes (.object keywords) →
    keyword? "oneOf" keywords = some (.array subschemas) →
    ∀ subschema ∈ subschemas, nodes subschema
  /-- References lead to some of them. -/
  reference : ∀ keywords reference name target, nodes (.object keywords) →
    keyword? "$ref" keywords = some reference →
    target? root reference = .ok (some (name, target)) → nodes target
  /-- Declared members lead to some of them. -/
  members : ∀ keywords declared, nodes (.object keywords) → properties keywords = .ok declared →
    ∀ entry ∈ declared, nodes entry.2
  /-- Items lead to one of them. -/
  items : ∀ keywords schema, nodes (.object keywords) →
    keyword? "items" keywords = some schema → nodes schema

theorem keyword?_properties_of_mem {keywords declared : List (CodePoints × Json)}
    {entry : CodePoints × Json} (declared_eq : properties keywords = .ok declared)
    (member : entry ∈ declared) : keyword? "properties" keywords = some (.object declared) := by
  have members_eq := properties_eq declared_eq
  rw [declaredMembers] at members_eq
  split at members_eq
  next found => rw [found, members_eq]
  · simp [← members_eq] at member

/-- If the objects in a node pass a test, so do those in the values of its keywords. -/
theorem everyObject_of_keyword? {test : List (CodePoints × Json) → Bool} {name : String}
    {keywords : List (CodePoints × Json)} {value : Json}
    (every : (Json.object keywords).everyObject test = true)
    (found : keyword? name keywords = some value) : value.everyObject test = true := by
  rw [Json.everyObject, Bool.and_eq_true] at every
  exact Json.everyObject_of_member? every.2 found

/-- Starting from a value whose objects pass a test, an evaluation comes only to such values if the
objects in all definitions pass it. -/
theorem closed_everyObject {root : Json} {test : List (CodePoints × Json) → Bool}
    (defined : ∀ known, definitions root = .ok known → Json.everyInMembers test known = true) :
    Closed root fun schema => schema.everyObject test = true := by
  constructor
  case alternatives =>
    intro keywords subschemas every found subschema member
    exact Json.everyObject_of_mem_items (everyObject_of_keyword? every found) member
  case reference =>
    intro keywords reference name target every given resolved
    obtain ⟨name, rootKeywords, known, -, root_eq, known_eq, member, -⟩ :=
      exists_target?_iff.mp ⟨name, resolved⟩
    have known_passes := defined known (definitions_eq_ok_iff.mpr ⟨_, root_eq, .inl known_eq⟩)
    exact Json.everyObject_of_member? known_passes member
  case members =>
    intro keywords declared every declared_eq entry member
    have found := keyword?_properties_of_mem declared_eq member
    exact Json.everyObject_of_mem_members (everyObject_of_keyword? every found) member
  case items =>
    intro keywords schema every found
    exact everyObject_of_keyword? every found

/-- The cause of a violation stems from one of the nodes that an evaluation comes to. -/
theorem Arises.exists_stemsFrom {root schema data : Json} {nodes : Json → Prop}
    {location : Location} {violation : Violation}
    (arises : Arises root location schema data violation) (closed : Closed root nodes)
    (node : nodes schema) :
    ∃ keywords, nodes (.object keywords) ∧ violation.cause.StemsFrom root keywords := by
  induction arises with
  | alternatives given => exact ⟨_, node, _, given⟩
  | unresolved given nowhere => exact ⟨_, node, given, nowhere⟩
  | reference given resolved _ induction =>
      exact induction (closed.reference _ _ _ _ node given resolved)
  | type given => exact ⟨_, node, given, _, rfl⟩
  | constant given => exact ⟨_, node, given⟩
  | option given options_eq => exact ⟨_, node, _, given, options_eq⟩
  | length given => exact ⟨_, node, given⟩
  | pattern given => exact ⟨_, node, given⟩
  | @missing _ keywords _ keys _ listed member =>
      refine ⟨keywords, node, ?_⟩
      rw [requiredKeys] at listed
      cases required_eq : keyword? "required" keywords with
      | none =>
          rw [required_eq, Except.ok.injEq] at listed
          simp [← listed] at member
      | some value =>
          rw [required_eq] at listed
          exact ⟨value, keys, required_eq, listed, member⟩
  | member declared_eq declares _ _ induction =>
      exact induction (closed.members _ _ node declared_eq _ declares)
  | undeclared refuses => exact ⟨_, node, isClosed_iff.mp refuses⟩
  | items given => exact ⟨_, node, given⟩
  | item found _ _ induction => exact induction (closed.items _ _ node found)

/-- A violation that an evaluation reports stems from one of the nodes that it comes to. -/
theorem exists_stemsFrom_of_mem_check {context : Context} {nodes : Json → Prop}
    {location : Location} {followed : List CodePoints} {schema data : Json}
    {found : List Violation} {violation : Violation} (closed : Closed context.root nodes)
    (node : nodes schema) (returned : check context location followed schema data = .ok found)
    (member : violation ∈ found) :
    ∃ keywords, nodes (.object keywords) ∧ violation.cause.StemsFrom context.root keywords :=
  (arises_of_mem_check returned member).exists_stemsFrom closed node

end Schema
end DiscoveryFiles
