import DiscoveryFiles.Proofs.Schema.FaultOrigin
import DiscoveryFiles.Proofs.Schema.Termination

/-!
# Well-formed schemas

In a well-formed document all keywords have values of the kinds that an evaluation can use, and all
patterns can be read.  Whatever the data are, nothing but a loop without end stops the evaluation of
one of its schemas.
-/

namespace DiscoveryFiles
namespace Schema

/-! ## Values of keywords -/

/-- Whether a value is an array. -/
def isList : Json → Bool
  | .array _ => true
  | _ => false

/-- Whether a value is a string. -/
def isText : Json → Bool
  | .string _ => true
  | _ => false

/-- Whether a value is an array of strings. -/
def isTextList : Json → Bool
  | .array items => items.all isText
  | _ => false

/-- Whether a length can be compared with a value, or the value is null. -/
def isBound : Json → Bool
  | .null | .boolean _ | .integer _ | .double _ => true
  | _ => false

/-- Whether a value is null or a string that can be read as a pattern. -/
def isReadable : Json → Bool
  | .null => true
  | .string points => (Pattern.parse points).isOk
  | _ => false

/-- Whether a value is null or an object. -/
def isRecord : Json → Bool
  | .null | .object _ => true
  | _ => false

/-- The keywords of a node have values that an evaluation can use, as far as they are there. -/
@[mk_iff]
structure Usable (keywords : List (CodePoints × Json)) : Prop where
  /-- The alternatives are listed in an array. -/
  alternatives : (keyword? "oneOf" keywords).all isList = true
  /-- The options are listed in an array. -/
  options : (keyword? "enum" keywords).all isList = true
  /-- The required keys are strings. -/
  required : (keyword? "required" keywords).all isTextList = true
  /-- The least length is a number or a truth value, or null. -/
  leastLength : (keyword? "minLength" keywords).all isBound = true
  /-- The least number of items is a number or a truth value, or null. -/
  leastItems : (keyword? "minItems" keywords).all isBound = true
  /-- The pattern can be read, or is null. -/
  pattern : (keyword? "pattern" keywords).all isReadable = true
  /-- The members are declared in an object, or in null. -/
  properties : (keyword? "properties" keywords).all isRecord = true

instance (keywords : List (CodePoints × Json)) : Decidable (Usable keywords) :=
  decidable_of_iff' _ (usable_iff keywords)

/-- Everywhere in a document where there can be a schema, its keywords are usable, and the document
has its definitions in an object, if it has any. -/
structure IsWellFormed (root : Json) : Prop where
  /-- The keywords are usable. -/
  usable : ∀ keywords, Subschema root (.object keywords) → Usable keywords
  /-- The definitions are in an object. -/
  defined : ∀ keywords, root = .object keywords →
    ∀ value, keyword? "$defs" keywords = some value → ∃ definitions, value = .object definitions

/-! ## Usable keywords -/

private theorem elements_ne_error {value : Json} (list : isList value = true) (fault : Fault) :
    elements value ≠ .error fault := by
  cases value <;> simp_all [isList, elements]

private theorem isBelow_ne_error {least : Json} (bound : isBound least = true)
    (given : least ≠ .null)
    (length : Nat) (fault : Fault) : isBelow length least ≠ .error fault := by
  have counts : ∃ quantity, least.quantity? = some quantity := by
    cases least with
    | double x => cases x <;> simp [Json.quantity?]
    | _ => simp_all [isBound, Json.quantity?]
  obtain ⟨quantity, counts⟩ := counts
  rw [isBelow, counts]
  cases quantity <;> simp

private theorem lengthViolations_ne_error {least : Option Json} (bound : least.all isBound = true)
    {location : Location} {length : Nat} {cause : Nat → Json → Cause} (fault : Fault) :
    lengthViolations location least length cause ≠ .error fault := by
  rw [lengthViolations.eq_def]
  split
  · simp
  · simp
  next value given =>
    intro failed
    rcases bind_eq_error_iff.mp failed with compared | ⟨below, -, chosen⟩
    · exact isBelow_ne_error bound given length fault compared
    · cases below <;> cases chosen

section Usable

variable {keywords : List (CodePoints × Json)} {location : Location} {data : Json}

private theorem Usable.optionViolations_ne_error (usable : Usable keywords) (fault : Fault) :
    optionViolations location keywords data ≠ .error fault := by
  have list := usable.options
  rw [optionViolations]
  cases given : keyword? "enum" keywords with
  | none => simp
  | some options =>
      rw [given] at list
      intro failed
      rcases bind_eq_error_iff.mp failed with listed | ⟨values, -, chosen⟩
      · exact elements_ne_error list fault listed
      · split at chosen <;> cases chosen

private theorem Usable.patternViolations_ne_error (usable : Usable keywords) {points : CodePoints}
    (fault : Fault) :
    patternViolations location (keyword? "pattern" keywords) points ≠ .error fault := by
  have readable := usable.pattern
  cases given : keyword? "pattern" keywords with
  | none => simp [patternViolations]
  | some pattern =>
      rw [given] at readable
      cases pattern with
      | null => simp [patternViolations, Json.isGiven]
      | string text =>
          cases read : Pattern.parse text with
          | error error => simp [isReadable, read, Except.isOk, Except.toBool] at readable
          | ok parsed =>
              simp only [patternViolations, read]
              split
              · simp
              · split <;> simp
      | _ => cases readable

private theorem Usable.ownViolations_ne_error (usable : Usable keywords) (fault : Fault) :
    ownViolations location keywords data ≠ .error fault := by
  intro failed
  rcases bind_eq_error_iff.mp failed with options | ⟨options, -, rest⟩
  · exact usable.optionViolations_ne_error fault options
  cases data with
  | string points =>
      rcases bind_eq_error_iff.mp rest with length | ⟨lengths, -, rest⟩
      · exact lengthViolations_ne_error usable.leastLength fault length
      rcases bind_eq_error_iff.mp rest with pattern | ⟨patterns, -, ended⟩
      · exact usable.patternViolations_ne_error fault pattern
      · cases ended
  | _ => cases rest

private theorem Usable.requiredKeys_ne_error (usable : Usable keywords) (fault : Fault) :
    requiredKeys keywords ≠ .error fault := by
  have texts := usable.required
  rw [requiredKeys]
  cases given : keyword? "required" keywords with
  | none => simp
  | some listed =>
      rw [given] at texts
      refine elements_ne_error ?_ fault
      cases listed <;> simp_all [isTextList, isList]

/-- Usable keywords require nothing but strings. -/
theorem Usable.exists_text_of_mem (usable : Usable keywords) {keys : List Json} {key : Json}
    (listed : requiredKeys keywords = .ok keys) (member : key ∈ keys) :
    ∃ name, key = .string name := by
  have texts := usable.required
  rw [requiredKeys] at listed
  cases given : keyword? "required" keywords with
  | none =>
      rw [given, Except.ok.injEq] at listed
      simp [← listed] at member
  | some value =>
      rw [given] at listed texts
      cases value with
      | array items =>
          obtain rfl : items = keys := Except.ok.inj listed
          have text : isText key = true := List.all_eq_true.mp texts key member
          cases key with
          | string name => exact ⟨name, rfl⟩
          | _ => cases text
      | _ => cases texts

private theorem Usable.properties_ne_error (usable : Usable keywords) (fault : Fault) :
    Schema.properties keywords ≠ .error fault := by
  have record := usable.properties
  rw [Schema.properties.eq_def]
  cases given : keyword? "properties" keywords with
  | none => simp
  | some value =>
      rw [given] at record
      cases value with
      | null => simp [Json.isGiven]
      | object declared => simp
      | _ => cases record

/-- Usable keywords stop no evaluation under a document whose definitions can be looked into. -/
theorem Usable.not_stops (usable : Usable keywords) {context : Context} {fault : Fault}
    (defined : ∀ fault, definitions context.root ≠ .error fault) :
    ¬ Stops context keywords fault := by
  rintro (⟨given, failed⟩ | ⟨given, failed⟩ | ⟨failed⟩ | ⟨failed⟩ | ⟨listed, member, failed⟩ |
    ⟨failed⟩ | ⟨failed⟩)
  · have list := usable.alternatives
    rw [given] at list
    exact elements_ne_error list fault failed
  · rw [target?] at failed
    split at failed
    · cases failed
    · cases known : definitions context.root with
      | error other => exact defined other known
      | ok known_eq => simp [known, Except.map] at failed
  · exact usable.ownViolations_ne_error fault failed
  · exact usable.requiredKeys_ne_error fault failed
  · obtain ⟨name, rfl⟩ := usable.exists_text_of_mem listed member
    rw [requiredViolation] at failed
    split at failed <;> cases failed
  · exact usable.properties_ne_error fault failed
  · exact lengthViolations_ne_error usable.leastItems fault failed

end Usable

/-! ## Well-formed documents -/

/-- Only an object has other schemas in it. -/
theorem Subschema.exists_eq_object {root node : Json} (subschema : Subschema root node)
    {keywords : List (CodePoints × Json)} (node_eq : node = .object keywords) :
    ∃ members, root = .object members := by
  induction subschema generalizing keywords with
  | whole => exact ⟨keywords, node_eq⟩
  | alternative _ _ _ outer | property _ _ _ outer | items _ _ outer | definition _ _ _ outer =>
      exact outer rfl

/-- The definitions of a well-formed document that has schemas with keywords can be looked into. -/
theorem IsWellFormed.definitions_ne_error {root : Json} {keywords : List (CodePoints × Json)}
    (wellFormed : IsWellFormed root) (node : Subschema root (.object keywords)) (fault : Fault) :
    definitions root ≠ .error fault := by
  intro failed
  obtain ⟨members, root_eq⟩ := node.exists_eq_object rfl
  rw [root_eq, definitions] at failed
  cases given : keyword? "$defs" members with
  | none => simp [given] at failed
  | some value =>
      obtain ⟨known, rfl⟩ := wellFormed.defined members root_eq value given
      simp [given] at failed

/-- Evaluating a schema of a well-formed document ends with violations, unless references lead back
to themselves at the same value without end. -/
theorem violations_of_isWellFormed {root schema : Json} (wellFormed : IsWellFormed root)
    (subschema : Subschema root schema) (base : Text) (data : Json) :
    (∃ found, violations (some root) base schema data = .ok found) ∨
      violations (some root) base schema data = .error .endless := by
  cases evaluated : violations (some root) base schema data with
  | ok found => exact .inl ⟨found, rfl⟩
  | error fault =>
      rw [violations_eq_check, rootFor_eq_of_subschema subschema] at evaluated
      rcases isExplained_of_check_eq_error (closed_subschema root) subschema evaluated with
        rfl | ⟨keywords, node, stops⟩
      · exact .inr rfl
      · exact absurd stops ((wellFormed.usable keywords node).not_stops
          (wellFormed.definitions_ne_error node))

/-- The keywords of a schema are usable if those of all objects in the document are. -/
theorem Subschema.usable {root : Json} {keywords : List (CodePoints × Json)}
    (subschema : Subschema root (.object keywords))
    (every : root.everyObject (fun keywords => decide (Usable keywords)) = true) :
    Usable keywords := by
  have passes := subschema.everyObject every
  rw [Json.everyObject, Bool.and_eq_true] at passes
  exact of_decide_eq_true passes.1

/-- A schema for trees, whose nodes have a label and may have a list of subtrees. -/
def trees : Json :=
  .object [
    (CodePoints.ofString "$ref", .words "#/$defs/tree"),
    (CodePoints.ofString "$defs", .object [
      (CodePoints.ofString "tree", .object [
        (CodePoints.ofString "required", .array [.words "label"]),
        (CodePoints.ofString "properties", .object [
          (CodePoints.ofString "label", .object [
            (CodePoints.ofString "oneOf", .array [
              .object [(CodePoints.ofString "enum", .array [.null])],
              .object [(CodePoints.ofString "pattern", .words "^[a-z]+$")]]),
            (CodePoints.ofString "minLength", .integer 1)]),
          (CodePoints.ofString "subtrees", .object [
            (CodePoints.ofString "minItems", .boolean true),
            (CodePoints.ofString "items", .object [
              (CodePoints.ofString "$ref", .words "#/$defs/tree")])])])])])]

private theorem isWellFormed_trees : IsWellFormed trees := by
  constructor
  case usable =>
    intro keywords subschema
    have readable : isReadable (.string (CodePoints.ofString "^[a-z]+$")) = true := by
      unfold CodePoints.ofString
      rewrite [String.toList_ofList]
      decide +kernel
    have every : trees.everyObject (fun keywords => decide (Usable keywords)) = true := by
      simp [trees, Json.everyObject, Json.everyInMembers, Json.everyInItems, usable_iff, isList,
        isTextList, isText, isBound, isRecord, readable, Json.words]
    exact subschema.usable every
  case defined =>
    rintro keywords ⟨⟩ value found
    simp at found
    exact ⟨_, found.symm⟩

/-- A tree whose subtree has no label is checked to the end. -/
theorem violations_of_unlabelledTree :
    let subtree : Json := .object []
    let tree : Json := .object [
      (CodePoints.ofString "label", .words "oak"),
      (CodePoints.ofString "subtrees", .array [subtree])]
    IsWellFormed trees ∧ Subschema trees trees ∧
      ((∃ found, violations (some trees) [] trees tree = .ok found) ∨
        violations (some trees) [] trees tree = .error .endless) :=
  ⟨isWellFormed_trees, .whole, violations_of_isWellFormed isWellFormed_trees .whole [] _⟩

end Schema
end DiscoveryFiles
