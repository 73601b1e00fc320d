import DiscoveryFiles.Proofs.Schema.Termination
import Mathlib.Logic.Relation

/-!
# Inlined schemas

Every node with a reference can be replaced by the definition that it refers to, in which the same
has been done.  Where no definition refers back to itself this leaves no reference behind, in none
of the schemas that the document is made of.
-/

namespace DiscoveryFiles
namespace Schema

/-! ## Replacing references -/

mutual

/-- A schema of a document with definitions in the place of references.  The definitions with the
names that have been passed on the way are not put in once more. -/
def inlined (root : Json) (passed : List CodePoints) (schema : Json) : Json :=
  match schema with
  | .object keywords =>
      match keyword? "$ref" keywords with
      | none => .object (inlinedKeywords root passed keywords)
      | some reference =>
          match _found : target? root reference with
          | .ok (some (name, target)) =>
              if _fresh : name ∈ passed then .object keywords
              else inlined root (name :: passed) target
          | _ => .object keywords
  | schema => schema
termination_by (unfollowed root passed, sizeOf schema)
decreasing_by
  · apply Prod.Lex.right
    simp only [Json.object.sizeOf_spec]
    omega
  · apply Prod.Lex.left
    exact unfollowed_cons_lt _found _fresh

/-- Keywords with the schemas in their values inlined. -/
def inlinedKeywords (root : Json) (passed : List CodePoints) (keywords : List (CodePoints × Json)) :
    List (CodePoints × Json) :=
  match keywords with
  | [] => []
  | (name, value) :: others =>
      (name, inlinedKeyword root passed name value) :: inlinedKeywords root passed others
termination_by (unfollowed root passed, sizeOf keywords)
decreasing_by
  · apply Prod.Lex.right
    simp only [List.cons.sizeOf_spec, Prod.mk.sizeOf_spec]
    omega
  · apply Prod.Lex.right
    simp only [List.cons.sizeOf_spec]
    omega

/-- The value of a keyword with the schemas in it inlined. -/
def inlinedKeyword (root : Json) (passed : List CodePoints) (name : CodePoints) (value : Json) :
    Json :=
  if name = CodePoints.ofString "items" then inlined root passed value
  else
    match value with
    | .array subschemas =>
        if name = CodePoints.ofString "oneOf" then .array (inlinedItems root passed subschemas)
        else .array subschemas
    | .object members =>
        if name = CodePoints.ofString "properties" ∨ name = CodePoints.ofString "$defs" then
          .object (inlinedMembers root passed members)
        else .object members
    | value => value
termination_by (unfollowed root passed, sizeOf value + 1)
decreasing_by
  · exact Prod.Lex.right _ (Nat.lt_succ_self _)
  · apply Prod.Lex.right
    simp only [Json.array.sizeOf_spec]
    omega
  · apply Prod.Lex.right
    simp only [Json.object.sizeOf_spec]
    omega

/-- Alternatives, each of them inlined. -/
def inlinedItems (root : Json) (passed : List CodePoints) (subschemas : List Json) : List Json :=
  match subschemas with
  | [] => []
  | schema :: others => inlined root passed schema :: inlinedItems root passed others
termination_by (unfollowed root passed, sizeOf subschemas)

/-- Schemas under names, each of them inlined. -/
def inlinedMembers (root : Json) (passed : List CodePoints) (members : List (CodePoints × Json)) :
    List (CodePoints × Json) :=
  match members with
  | [] => []
  | (name, schema) :: others =>
      (name, inlined root passed schema) :: inlinedMembers root passed others
termination_by (unfollowed root passed, sizeOf members)

end

section Shape

variable {root : Json} {passed : List CodePoints} {keywords : List (CodePoints × Json)}

private theorem inlinedItems_eq_map (subschemas : List Json) :
    inlinedItems root passed subschemas = subschemas.map (inlined root passed) := by
  induction subschemas with
  | nil => rw [inlinedItems, List.map_nil]
  | cons schema others induction => rw [inlinedItems, induction, List.map_cons]

private theorem inlinedMembers_eq_map (members : List (CodePoints × Json)) :
    inlinedMembers root passed members =
      members.map fun entry => (entry.1, inlined root passed entry.2) := by
  induction members with
  | nil => rw [inlinedMembers, List.map_nil]
  | cons entry others induction => rw [inlinedMembers, induction, List.map_cons]

theorem inlined_of_not_object {schema : Json} (notObject : ∀ keywords, schema ≠ .object keywords) :
    inlined root passed schema = schema := by
  rw [inlined.eq_def]
  split
  · exact absurd rfl (notObject _)
  · rfl

theorem inlined_of_none (none : keyword? "$ref" keywords = none) :
    inlined root passed (.object keywords) = .object (inlinedKeywords root passed keywords) := by
  rw [inlined, none]

theorem inlined_of_reference {reference target : Json} {name : CodePoints}
    (given : keyword? "$ref" keywords = some reference)
    (found : target? root reference = .ok (some (name, target))) (fresh : name ∉ passed) :
    inlined root passed (.object keywords) = inlined root (name :: passed) target := by
  rw [inlined, given]
  dsimp only
  split
  next found_again =>
    rw [found] at found_again
    cases found_again
    exact dif_neg fresh
  next other => exact absurd found (other _ _)

/-- A keyword keeps its place and has its inlined value there. -/
theorem keyword?_inlinedKeywords (name : String) :
    keyword? name (inlinedKeywords root passed keywords) =
      (keyword? name keywords).map (inlinedKeyword root passed (CodePoints.ofString name)) := by
  induction keywords with
  | nil => rw [inlinedKeywords]; rfl
  | cons entry others induction =>
      obtain ⟨key, value⟩ := entry
      simp only [keyword?, Json.member?] at induction
      simp only [inlinedKeywords, keyword?, Json.member?, List.lookup_cons, induction]
      cases same : CodePoints.ofString name == key with
      | true =>
          obtain rfl := beq_iff_eq.mp same
          rfl
      | false => rfl

/-- Only a few keywords have schemas in their values. -/
theorem keyword?_inlinedKeywords_of_ordinary {name : String}
    (ordinary : name ∉ ["oneOf", "properties", "items", "$defs"]) :
    keyword? name (inlinedKeywords root passed keywords) = keyword? name keywords := by
  simp only [List.mem_cons, List.not_mem_nil, or_false, not_or] at ordinary
  obtain ⟨notOneOf, notProperties, notItems, notDefs⟩ := ordinary
  have same (value : Json) :
      inlinedKeyword root passed (CodePoints.ofString name) value = value := by
    cases value <;> simp [inlinedKeyword, notOneOf, notProperties, notItems, notDefs]
  rw [keyword?_inlinedKeywords]
  cases keyword? name keywords with
  | none => rfl
  | some value => exact congrArg some (same value)

theorem inlinedKeyword_oneOf (subschemas : List Json) :
    inlinedKeyword root passed (CodePoints.ofString "oneOf") (.array subschemas) =
      .array (subschemas.map (inlined root passed)) := by
  rw [inlinedKeyword]
  simp [inlinedItems_eq_map]

theorem inlinedKeyword_members {name : String} (holds : name = "properties" ∨ name = "$defs")
    (members : List (CodePoints × Json)) :
    inlinedKeyword root passed (CodePoints.ofString name) (.object members) =
      .object (members.map fun entry => (entry.1, inlined root passed entry.2)) := by
  rw [inlinedKeyword]
  rcases holds with rfl | rfl <;> simp [inlinedMembers_eq_map]

theorem inlinedKeyword_items (schema : Json) :
    inlinedKeyword root passed (CodePoints.ofString "items") schema =
      inlined root passed schema := by
  rw [inlinedKeyword.eq_def, if_pos rfl]

/-- Where no schemas are expected, the value of a keyword stays the same. -/
theorem inlinedKeyword_oneOf_of_not_array {value : Json}
    (notArray : ∀ subschemas, value ≠ .array subschemas) :
    inlinedKeyword root passed (CodePoints.ofString "oneOf") value = value := by
  cases value with
  | array => exact absurd rfl (notArray _)
  | _ => simp [inlinedKeyword]

theorem inlinedKeyword_members_of_not_object {name : String}
    (holds : name = "properties" ∨ name = "$defs") {value : Json}
    (notObject : ∀ members, value ≠ .object members) :
    inlinedKeyword root passed (CodePoints.ofString name) value = value := by
  cases value with
  | object => exact absurd rfl (notObject _)
  | _ => rcases holds with rfl | rfl <;> simp [inlinedKeyword]

/-- The alternatives of an inlined node are those of the node, each of them inlined. -/
theorem exists_of_oneOf_inlined {subschemas : List Json}
    (found : keyword? "oneOf" (inlinedKeywords root passed keywords) = some (.array subschemas)) :
    ∃ sources, keyword? "oneOf" keywords = some (.array sources) ∧
      subschemas = sources.map (inlined root passed) := by
  rw [keyword?_inlinedKeywords, Option.map_eq_some_iff] at found
  obtain ⟨value, found, value_eq⟩ := found
  by_cases isArray : ∃ sources, value = .array sources
  · obtain ⟨sources, rfl⟩ := isArray
    rw [inlinedKeyword_oneOf, Json.array.injEq] at value_eq
    exact ⟨sources, found, value_eq.symm⟩
  · rw [not_exists] at isArray
    rw [inlinedKeyword_oneOf_of_not_array isArray] at value_eq
    exact absurd value_eq (isArray _)

/-- So are the schemas that it has under names. -/
theorem exists_of_members_inlined {name : String} (holds : name = "properties" ∨ name = "$defs")
    {members : List (CodePoints × Json)}
    (found : keyword? name (inlinedKeywords root passed keywords) = some (.object members)) :
    ∃ sources, keyword? name keywords = some (.object sources) ∧
      members = sources.map fun entry => (entry.1, inlined root passed entry.2) := by
  rw [keyword?_inlinedKeywords, Option.map_eq_some_iff] at found
  obtain ⟨value, found, value_eq⟩ := found
  by_cases isObject : ∃ sources, value = .object sources
  · obtain ⟨sources, rfl⟩ := isObject
    rw [inlinedKeyword_members holds, Json.object.injEq] at value_eq
    exact ⟨sources, found, value_eq.symm⟩
  · rw [not_exists] at isObject
    rw [inlinedKeyword_members_of_not_object holds isObject] at value_eq
    exact absurd value_eq (isObject _)

end Shape

/-! ## Documents without cycles -/

/-- The reference to the definition with a name. -/
def referenceTo (name : CodePoints) : Json :=
  .string (CodePoints.ofString "#/$defs/" ++ name)

/-- The definition with one name refers, at some depth, to the definition with another. -/
def Refers (root : Json) (name other : CodePoints) : Prop :=
  ∃ definition keywords, Resolves root (referenceTo name) definition ∧
    Subschema definition (.object keywords) ∧
    keyword? "$ref" keywords = some (referenceTo other)

/-- All references of a document lead to definitions, which do not refer to one another in a cycle,
and no node has alternatives beside a reference. -/
structure IsInlinable (root : Json) : Prop where
  /-- References lead to definitions. -/
  resolves : ∀ keywords reference, Subschema root (.object keywords) →
    keyword? "$ref" keywords = some reference → ∃ target, Resolves root reference target
  /-- Nodes with a reference have no alternatives. -/
  apart : ∀ keywords, Subschema root (.object keywords) →
    keyword? "oneOf" keywords = none ∨ keyword? "$ref" keywords = none
  /-- No definition refers back to itself through any number of others. -/
  acyclic : ∀ name, ¬ Relation.TransGen (Refers root) name name

theorem Subschema.trans {root outer inner : Json} (inside : Subschema root outer)
    (deeper : Subschema outer inner) : Subschema root inner := by
  induction deeper with
  | whole => exact inside
  | alternative _ found member induction => exact .alternative induction found member
  | property _ found member induction => exact .property induction found member
  | items _ found induction => exact .items induction found
  | definition _ found member induction => exact .definition induction found member

/-- A node stands inside the definition with a name, or inside of one that it leads to. -/
def StandsUnder (root : Json) (name : CodePoints) (node : Json) : Prop :=
  ∃ last definition, Relation.ReflTransGen (Refers root) name last ∧
    Resolves root (referenceTo last) definition ∧ Subschema definition node

/-- A schema of a document has been come to by way of the definitions with some names. -/
structure ComesBy (root : Json) (passed : List CodePoints) (schema : Json) : Prop where
  /-- It is a schema of the document. -/
  inside : Subschema root schema
  /-- It stands under all of the names. -/
  under : ∀ name ∈ passed, StandsUnder root name schema

section ComesBy

variable {root : Json} {passed : List CodePoints} {keywords : List (CodePoints × Json)}

theorem ComesBy.inner {schema inner : Json} (comes : ComesBy root passed schema)
    (deeper : Subschema schema inner) : ComesBy root passed inner where
  inside := comes.inside.trans deeper
  under name member := by
    obtain ⟨last, definition, leads, resolved, around⟩ := comes.under name member
    exact ⟨last, definition, leads, resolved, around.trans deeper⟩

/-- A reference leads on to a definition that has not been passed. -/
theorem IsInlinable.exists_target (inlinable : IsInlinable root)
    (node : Subschema root (.object keywords)) {reference : Json}
    (given : keyword? "$ref" keywords = some reference) :
    ∃ name target, target? root reference = .ok (some (name, target)) ∧
      ∀ passed, ComesBy root passed (.object keywords) →
        name ∉ passed ∧ ComesBy root (name :: passed) target := by
  obtain ⟨target, resolved⟩ := inlinable.resolves keywords reference node given
  obtain ⟨name, found⟩ := exists_target?_iff.mpr resolved
  obtain rfl : reference = referenceTo name := reference_eq_of_target? found
  refine ⟨name, target, found, fun passed comes =>
    ⟨fun again => ?_, subschema_of_target? found, ?_⟩⟩
  · obtain ⟨last, definition, leads, last_resolved, around⟩ := comes.under name again
    exact inlinable.acyclic name (.tail' leads ⟨definition, keywords, last_resolved, around, given⟩)
  · refine List.forall_mem_cons.mpr
      ⟨⟨name, target, .refl, resolved, .whole⟩, fun other member => ?_⟩
    obtain ⟨last, definition, leads, last_resolved, around⟩ := comes.under other member
    exact ⟨name, target, leads.tail ⟨definition, keywords, last_resolved, around, given⟩, resolved,
      .whole⟩

/-! ## References that remain -/

/-- An inlined node is made of one without a reference. -/
theorem exists_keywords_of_inlined (inlinable : IsInlinable root) (passed : List CodePoints)
    {schema : Json} (comes : ComesBy root passed schema)
    (inlined_eq : inlined root passed schema = .object keywords) :
    ∃ others source, ComesBy root others (.object source) ∧ keyword? "$ref" source = none ∧
      keywords = inlinedKeywords root others source := by
  cases schema with
  | object source =>
      cases given : keyword? "$ref" source with
      | none =>
          rw [inlined_of_none given, Json.object.injEq] at inlined_eq
          exact ⟨passed, source, comes, given, inlined_eq.symm⟩
      | some reference =>
          obtain ⟨name, target, found, leads⟩ := inlinable.exists_target comes.inside given
          obtain ⟨fresh, onward⟩ := leads passed comes
          rw [inlined_of_reference given found fresh] at inlined_eq
          have fewer := unfollowed_cons_lt found fresh
          exact exists_keywords_of_inlined inlinable (name :: passed) onward inlined_eq
  | _ =>
      rw [inlined_of_not_object (by simp)] at inlined_eq
      cases inlined_eq
termination_by unfollowed root passed

/-- The schemas that an inlined schema is made of are inlined schemas of the document. -/
theorem exists_source_of_subschema (inlinable : IsInlinable root) {schema node : Json}
    (comes : ComesBy root passed schema) (inside : Subschema (inlined root passed schema) node) :
    ∃ others source, ComesBy root others source ∧ node = inlined root others source := by
  have opened {keywords : List (CodePoints × Json)}
      (outer : ∃ others source, ComesBy root others source ∧
        .object keywords = inlined root others source) :
      ∃ others source, ComesBy root others (.object source) ∧
        keywords = inlinedKeywords root others source := by
    obtain ⟨_, _, comes, outer_eq⟩ := outer
    obtain ⟨others, source, comes, -, rfl⟩ :=
      exists_keywords_of_inlined inlinable _ comes outer_eq.symm
    exact ⟨others, source, comes, rfl⟩
  induction inside with
  | whole => exact ⟨passed, schema, comes, rfl⟩
  | alternative _ found member induction =>
      obtain ⟨others, source, comes, rfl⟩ := opened induction
      obtain ⟨sources, source_found, rfl⟩ := exists_of_oneOf_inlined found
      obtain ⟨inner, listed, rfl⟩ := List.mem_map.mp member
      exact ⟨others, inner, comes.inner (.alternative .whole source_found listed), rfl⟩
  | property _ found member induction =>
      obtain ⟨others, source, comes, rfl⟩ := opened induction
      obtain ⟨sources, source_found, rfl⟩ := exists_of_members_inlined (.inl rfl) found
      obtain ⟨entry, listed, entry_eq⟩ := List.mem_map.mp member
      obtain ⟨-, rfl⟩ := Prod.mk.inj entry_eq
      exact ⟨others, entry.2, comes.inner (.property .whole source_found listed), rfl⟩
  | items _ found induction =>
      obtain ⟨others, source, comes, rfl⟩ := opened induction
      rw [keyword?_inlinedKeywords, Option.map_eq_some_iff] at found
      obtain ⟨inner, found, rfl⟩ := found
      exact ⟨others, inner, comes.inner (.items .whole found), inlinedKeyword_items inner⟩
  | definition _ found member induction =>
      obtain ⟨others, source, comes, rfl⟩ := opened induction
      obtain ⟨sources, source_found, rfl⟩ := exists_of_members_inlined (.inr rfl) found
      obtain ⟨entry, listed, entry_eq⟩ := List.mem_map.mp member
      obtain ⟨-, rfl⟩ := Prod.mk.inj entry_eq
      exact ⟨others, entry.2, comes.inner (.definition .whole source_found listed), rfl⟩

theorem comesBy_nil {schema : Json} (inside : Subschema root schema) : ComesBy root [] schema :=
  ⟨inside, by simp⟩

/-- No schema that an inlined document is made of has a reference. -/
theorem reference_of_inlined (inlinable : IsInlinable root)
    (inside : Subschema (inlined root [] root) (.object keywords)) :
    keyword? "$ref" keywords = none := by
  obtain ⟨_, _, comes, node_eq⟩ := exists_source_of_subschema inlinable (comesBy_nil .whole) inside
  obtain ⟨others, source, -, absent, rfl⟩ :=
    exists_keywords_of_inlined inlinable _ comes node_eq.symm
  rw [keyword?_inlinedKeywords_of_ordinary (by decide), absent]

end ComesBy

end Schema
end DiscoveryFiles
