import DiscoveryFiles.Proofs.Schema.Inlining
import DiscoveryFiles.Proofs.Schema.Alike

/-!
# References are transparent

An evaluation under a document follows references from node to node.  Under the inlined document
there is nothing to follow, whatever document references would look into, and every value has the
same violations in the same order or is stopped by the same fault.
-/

namespace DiscoveryFiles
namespace Schema

/-! ## Loops over inlined schemas -/

section Loop

variable {context replaced : Context} {location : Location} {followed kept : List CodePoints}
  {data : Json}

private theorem gather_map {α β : Type} {f : β → α}
    {violationsOf : α → Except Fault (List Violation)}
    {others : β → Except Fault (List Violation)} {elements : List β}
    (same : ∀ element ∈ elements, violationsOf (f element) = others element) :
    gather violationsOf (elements.map f) = gather others elements := by
  induction elements with
  | nil => rfl
  | cons element elements induction =>
      obtain ⟨here, later⟩ := List.forall_mem_cons.mp same
      rw [List.map_cons, gather, gather, here, induction later]

private theorem anyAccepts_map {f : Json → Json} {subschemas : List Json}
    (same : ∀ subschema ∈ subschemas, check replaced location kept (f subschema) data =
      check context location followed subschema data) :
    anyAccepts replaced location kept (subschemas.map f) data =
      anyAccepts context location followed subschemas data := by
  induction subschemas with
  | nil => rw [List.map_nil, anyAccepts, anyAccepts]
  | cons subschema others induction =>
      obtain ⟨here, later⟩ := List.forall_mem_cons.mp same
      rw [List.map_cons, anyAccepts, anyAccepts, here, induction later]

end Loop

/-! ## Keywords of inlined nodes -/

section Keyword

variable {root : Json} {passed : List CodePoints} {location : Location}
  {keywords : List (CodePoints × Json)} {data : Json}

private theorem typeViolation?_inlinedKeywords :
    typeViolation? location (inlinedKeywords root passed keywords) data =
      typeViolation? location keywords data := by
  rw [typeViolation?, typeViolation?, keyword?_inlinedKeywords_of_ordinary (by decide)]

private theorem ownViolations_inlinedKeywords :
    ownViolations location (inlinedKeywords root passed keywords) data =
      ownViolations location keywords data := by
  have same (name : String) (ordinary : name ∉ ["oneOf", "properties", "items", "$defs"]) :
      keyword? name (inlinedKeywords root passed keywords) = keyword? name keywords :=
    keyword?_inlinedKeywords_of_ordinary ordinary
  simp only [ownViolations, optionViolations, constantViolations, same "enum" (by decide),
    same "const" (by decide), same "minLength" (by decide), same "pattern" (by decide)]

private theorem properties_inlinedKeywords :
    properties (inlinedKeywords root passed keywords) =
      (properties keywords).map
        (·.map fun entry => (entry.1, inlined root passed entry.2)) := by
  rw [properties.eq_def, properties.eq_def, keyword?_inlinedKeywords]
  cases keyword? "properties" keywords with
  | none => rfl
  | some value =>
      by_cases isObject : ∃ members, value = .object members
      · obtain ⟨members, rfl⟩ := isObject
        rw [Option.map_some, inlinedKeyword_members (.inl rfl)]
        rfl
      · rw [not_exists] at isObject
        rw [Option.map_some, inlinedKeyword_members_of_not_object (.inl rfl) isObject]
        cases value with
        | object members => exact absurd rfl (isObject members)
        | _ => dsimp only; split <;> rfl

private theorem member?_map (f : Json → Json) (name : CodePoints)
    (members : List (CodePoints × Json)) :
    Json.member? name (members.map fun entry => (entry.1, f entry.2)) =
      (Json.member? name members).map f := by
  induction members with
  | nil => rfl
  | cons entry members induction =>
      obtain ⟨key, value⟩ := entry
      simp only [Json.member?] at induction
      simp only [List.map_cons, Json.member?, List.lookup_cons, induction]
      cases name == key <;> rfl

private theorem undeclaredViolations_inlinedKeywords (declared members : List (CodePoints × Json)) :
    undeclaredViolations location (inlinedKeywords root passed keywords)
        (declared.map fun entry => (entry.1, inlined root passed entry.2)) members =
      undeclaredViolations location keywords declared members := by
  have closed_eq : isClosed (inlinedKeywords root passed keywords) = isClosed keywords := by
    rw [isClosed, isClosed, keyword?_inlinedKeywords_of_ordinary (by decide)]
  simp only [undeclaredViolations, closed_eq, List.isEmpty_map, member?_map, Option.isNone_map]

end Keyword

/-! ## Evaluations under inlined documents -/

section Evaluation

variable {root : Json} {context replaced : Context} {location : Location}
  {passed followed : List CodePoints} {keywords : List (CodePoints × Json)} {schema data : Json}

/-- A schema of a document and the inlined one have the same outcome, whatever document references
look into in the second case. -/
def KeepsOutcome (context replaced : Context) (location : Location) (followed : List CodePoints)
    (schema data : Json) : Prop :=
  ComesBy context.root followed schema → ∀ passed, ComesBy context.root passed schema →
    check replaced location [] (inlined context.root passed schema) data =
      check context location followed schema data

private theorem checkAlternatives_inlined (comes : ComesBy context.root followed (.object keywords))
    (way : ComesBy context.root passed (.object keywords))
    (inner : ∀ subschemas, keyword? "oneOf" keywords = some (.array subschemas) →
      ∀ subschema ∈ subschemas, KeepsOutcome context replaced location followed subschema data) :
    checkAlternatives replaced location []
        (keyword? "oneOf" (inlinedKeywords context.root passed keywords)) data =
      checkAlternatives context location followed (keyword? "oneOf" keywords) data := by
  rw [keyword?_inlinedKeywords]
  cases found : keyword? "oneOf" keywords with
  | none => rw [Option.map_none, checkAlternatives, checkAlternatives]
  | some value =>
      by_cases isArray : ∃ subschemas, value = .array subschemas
      · obtain ⟨subschemas, rfl⟩ := isArray
        rw [Option.map_some, inlinedKeyword_oneOf, checkAlternatives, checkAlternatives]
        refine anyAccepts_map fun subschema member => ?_
        have deeper : Subschema (.object keywords) subschema := .alternative .whole found member
        exact inner subschemas found subschema member (comes.inner deeper) passed (way.inner deeper)
      · rw [not_exists] at isArray
        rw [Option.map_some, inlinedKeyword_oneOf_of_not_array isArray, checkAlternatives.eq_def,
          checkAlternatives.eq_def]
        split <;> simp_all

private theorem checkMembers_inlined (way : ComesBy context.root passed (.object keywords))
    {declared members : List (CodePoints × Json)} (declared_eq : properties keywords = .ok declared)
    (inner : ∀ name value, Json.member? name members = some value →
      ∀ location subschema, KeepsOutcome context replaced location [] subschema value) :
    checkMembers replaced location members
        (declared.map fun entry => (entry.1, inlined context.root passed entry.2)) =
      checkMembers context location members declared := by
  rw [checkMembers_eq_gather, checkMembers_eq_gather]
  refine gather_map fun entry declares => ?_
  dsimp only
  cases found : Json.member? entry.1 members with
  | none => rw [checkMember, checkMember]
  | some value =>
      rw [checkMember, checkMember]
      have deeper : Subschema (.object keywords) entry.2 :=
        .property .whole (keyword?_properties_of_mem declared_eq declares) declares
      have onward := way.inner deeper
      exact inner entry.1 value found _ entry.2 (comesBy_nil onward.inside) passed onward

private theorem checkItems_inlined (way : ComesBy context.root passed (.object keywords))
    {items : List Json}
    (inner : ∀ item ∈ items,
      ∀ location subschema, KeepsOutcome context replaced location [] subschema item) :
    checkItems replaced location
        ((keyword? "items" (inlinedKeywords context.root passed keywords)).getD .null) 0 items =
      checkItems context location ((keyword? "items" keywords).getD .null) 0 items := by
  rw [checkItems_eq_gather, checkItems_eq_gather, keyword?_inlinedKeywords]
  rw [← List.map_id (items.zipIdx 0)]
  refine (gather_map fun entry listed => ?_).trans (by rw [List.map_id])
  have item_mem : entry.1 ∈ items := List.mem_of_getElem? (List.mem_zipIdx_iff_getElem?.mp listed)
  cases found : keyword? "items" keywords with
  | none => simp [check]
  | some schema =>
      rw [Option.map_some, Option.getD_some, Option.getD_some, inlinedKeyword_items]
      have onward := way.inner (.items .whole found)
      exact inner entry.1 item_mem _ schema (comesBy_nil onward.inside) passed onward

private theorem checkInside_inlined (same_base : replaced.base = context.base)
    (way : ComesBy context.root passed (.object keywords))
    (ofMembers : ∀ members name value, data = .object members →
      Json.member? name members = some value →
      ∀ location subschema, KeepsOutcome context replaced location [] subschema value)
    (ofItems : ∀ items item, data = .array items → item ∈ items →
      ∀ location subschema, KeepsOutcome context replaced location [] subschema item) :
    checkInside replaced location (inlinedKeywords context.root passed keywords) data =
      checkInside context location keywords data := by
  cases data with
  | object members =>
      have keys_eq : requiredKeys (inlinedKeywords context.root passed keywords) =
          requiredKeys keywords := by
        rw [requiredKeys, requiredKeys, keyword?_inlinedKeywords_of_ordinary (by decide)]
      rw [checkInside, checkInside, keys_eq, same_base, properties_inlinedKeywords]
      cases declared_eq : properties keywords with
      | error fault => rfl
      | ok declared =>
          simp only [Except.map, ok_bind, undeclaredViolations_inlinedKeywords,
            checkMembers_inlined way declared_eq fun name value found =>
              ofMembers members name value rfl found]
  | array items =>
      rw [checkInside, checkInside, keyword?_inlinedKeywords_of_ordinary (by decide),
        checkItems_inlined way fun item member => ofItems items item rfl member]
  | _ => rw [checkInside, checkInside] <;> simp

/-- At every node, the outcome is kept if it is by the subevaluations. -/
theorem keepsOutcome_node (inlinable : IsInlinable context.root)
    (same_base : replaced.base = context.base)
    (descends : Descends context (KeepsOutcome context replaced) location followed schema data) :
    KeepsOutcome context replaced location followed schema data := by
  intro comes passed way
  cases schema with
  | object keywords =>
      cases given : keyword? "$ref" keywords with
      | some reference =>
          -- The reference is followed on one side, and has been replaced on the other.
          obtain ⟨name, target, found, leads⟩ := inlinable.exists_target comes.inside given
          obtain ⟨fresh, onward⟩ := leads followed comes
          obtain ⟨new, further⟩ := leads passed way
          have alone : keyword? "oneOf" keywords = none :=
            (inlinable.apart keywords comes.inside).resolve_right (by simp [given])
          have followed_eq : check context location followed (.object keywords) data =
              check context location (name :: followed) target data := by
            rw [check, alone, checkAlternatives, given]
            exact follow_eq_check found fresh
          rw [inlined_of_reference given found new, followed_eq]
          exact descends.reference reference name target found fresh onward _ further
      | none =>
          rw [inlined_of_none given, check, check,
            checkAlternatives_inlined comes way
              fun subschemas => descends.alternatives keywords subschemas rfl,
            keyword?_inlinedKeywords_of_ordinary (by decide), given,
            typeViolation?_inlinedKeywords, ownViolations_inlinedKeywords,
            checkInside_inlined same_base way descends.members descends.items]
  | _ =>
      rw [inlined_of_not_object (by simp), check, check]
      all_goals simp

/-- The schema under the inlined document, and under any other one, has the same outcome. -/
theorem keepsOutcome (inlinable : IsInlinable context.root)
    (same_base : replaced.base = context.base)
    (location : Location) (followed : List CodePoints) (schema data : Json) :
    KeepsOutcome context replaced location followed schema data :=
  check_induction context (fun _ _ _ _ => keepsOutcome_node inlinable same_base) location followed
    schema data

end Evaluation

/-- If all references of a document lead to definitions that do not refer to one another in a
cycle, and no node has alternatives beside a reference, then inlining leaves no reference in any of
its schemas, and every value has the same outcome under the inlined document as under the document:
the same violations in the same order, or the same fault.  This holds whatever document references
would look into. -/
theorem violations_inlined {root : Json} (inlinable : IsInlinable root) :
    (∀ keywords, Subschema (inlined root [] root) (.object keywords) →
      keyword? "$ref" keywords = none) ∧
    ∀ (other : Option Json) (base : Text) (data : Json),
      violations other base (inlined root [] root) data = violations none base root data := by
  refine ⟨fun keywords => reference_of_inlined inlinable, fun other base data => ?_⟩
  have kept : KeepsOutcome ⟨root, base⟩ ⟨rootFor other (inlined root [] root), base⟩ [] [] root
      data := keepsOutcome inlinable (by rfl) [] [] root data
  rw [violations_eq_check, violations_eq_check]
  exact kept (comesBy_nil .whole) [] (comesBy_nil .whole)

/-! ## A document with references in its definitions -/

/-- Definitions do not refer to one another in a cycle if some rank of them falls from each to those
that it refers to. -/
theorem acyclic_of_rank {root : Json} (rank : CodePoints → ℕ)
    (falls : ∀ name other, Refers root name other → rank other < rank name) (name : CodePoints) :
    ¬ Relation.TransGen (Refers root) name name := by
  intro cycle
  have less (other : CodePoints) (leads : Relation.TransGen (Refers root) name other) :
      rank other < rank name := by
    induction leads with
    | single first => exact falls _ _ first
    | tail _ last induction => exact (falls _ _ last).trans induction
  exact (less name cycle).false

/-- Whether all references of a node are those that a test allows. -/
def refersOnlyTo (names : List String) (keywords : List (CodePoints × Json)) : Bool :=
  match keyword? "$ref" keywords with
  | none => true
  | some (.string points) =>
      (keyword? "oneOf" keywords).isNone &&
        names.any fun name => points == CodePoints.ofString "#/$defs/" ++ CodePoints.ofString name
  | some _ => false

private theorem reference_of_refersOnlyTo {names : List String}
    {keywords : List (CodePoints × Json)}
    {reference : Json} (only : refersOnlyTo names keywords = true)
    (given : keyword? "$ref" keywords = some reference) :
    keyword? "oneOf" keywords = none ∧
      ∃ name ∈ names, reference = referenceTo (CodePoints.ofString name) := by
  rw [refersOnlyTo, given] at only
  cases reference with
  | string points =>
      simp only [Bool.and_eq_true, Option.isNone_iff_eq_none, List.any_eq_true, beq_iff_eq] at only
      obtain ⟨alone, name, member, rfl⟩ := only
      exact ⟨alone, name, member, rfl⟩
  | _ => cases only

/-- A node that refers to a definition. -/
def pointer (name : String) : Json :=
  .object [(CodePoints.ofString "$ref", referenceTo (CodePoints.ofString name))]

/-- A schema with nothing but declared members. -/
def declaring (members : List (CodePoints × Json)) : Json :=
  .object [(CodePoints.ofString "properties", .object members)]

/-- Addresses, whose streets are of their own kind. -/
def addressDefinition : Json :=
  declaring [(CodePoints.ofString "street", pointer "line")]

/-- Kinds of lines of an address. -/
def lineDefinition : Json :=
  .object [(CodePoints.ofString "type", .words "string")]

/-- Address books with an address of one's own and those of others. -/
def addressBook : Json :=
  .object [
    (CodePoints.ofString "properties", .object [
      (CodePoints.ofString "own", pointer "address"),
      (CodePoints.ofString "others", .object [
        (CodePoints.ofString "items", pointer "address")])]),
    (CodePoints.ofString "$defs", .object [
      (CodePoints.ofString "address", addressDefinition),
      (CodePoints.ofString "line", lineDefinition)])]

private theorem resolves_addressBook_iff {name : CodePoints} {definition : Json} :
    Resolves addressBook (referenceTo name) definition ↔
      name = CodePoints.ofString "address" ∧ definition = addressDefinition ∨
        name = CodePoints.ofString "line" ∧ definition = lineDefinition := by
  have member_iff : Json.member? name
        [(CodePoints.ofString "address", addressDefinition),
          (CodePoints.ofString "line", lineDefinition)] = some definition ↔
      name = CodePoints.ofString "address" ∧ definition = addressDefinition ∨
        name = CodePoints.ofString "line" ∧ definition = lineDefinition := by
    by_cases first : name = CodePoints.ofString "address"
    · simp [first, eq_comm]
    · have differ : (name == CodePoints.ofString "address") = false := by simpa using first
      by_cases second : name = CodePoints.ofString "line"
      · simp [second, eq_comm]
      · have apart : (name == CodePoints.ofString "line") = false := by simpa using second
        simp [Json.member?, List.lookup_cons, differ, apart, first, second]
  rw [← member_iff]
  constructor
  · rintro ⟨_, _, _, name_eq, ⟨⟩, found, member, -⟩
    obtain rfl : name = _ := by simpa [referenceTo] using name_eq
    obtain rfl : _ = _ := by simpa using found
    exact member
  · intro member
    refine ⟨name, _, _, rfl, rfl, rfl, member, ?_⟩
    rcases member_iff.mp member with ⟨-, rfl⟩ | ⟨-, rfl⟩ <;> exact Json.noConfusion

private theorem isInlinable_addressBook : IsInlinable addressBook := by
  have only {definition : Json} {names : List String} {keywords : List (CodePoints × Json)}
      (every : definition.everyObject (refersOnlyTo names) = true)
      (node : Subschema definition (.object keywords)) : refersOnlyTo names keywords = true := by
    have passes := node.everyObject every
    rw [Json.everyObject, Bool.and_eq_true] at passes
    exact passes.1
  have everywhere : addressBook.everyObject (refersOnlyTo ["address", "line"]) = true := by
    decide +kernel
  constructor
  case resolves =>
    intro keywords reference node given
    obtain ⟨-, name, member, rfl⟩ := reference_of_refersOnlyTo (only everywhere node) given
    simp only [resolves_addressBook_iff]
    rcases List.mem_pair.mp member with rfl | rfl
    · exact ⟨addressDefinition, .inl ⟨rfl, rfl⟩⟩
    · exact ⟨lineDefinition, .inr ⟨rfl, rfl⟩⟩
  case apart =>
    intro keywords node
    cases given : keyword? "$ref" keywords with
    | none => exact .inr rfl
    | some reference =>
        exact .inl (reference_of_refersOnlyTo (only everywhere node) given).1
  case acyclic =>
    refine acyclic_of_rank (fun name => if name = CodePoints.ofString "address" then 1 else 0) ?_
    rintro name other ⟨definition, keywords, resolved, node, given⟩
    rcases resolves_addressBook_iff.mp resolved with ⟨rfl, rfl⟩ | ⟨rfl, rfl⟩
    · have lines : addressDefinition.everyObject (refersOnlyTo ["line"]) = true := by
        decide +kernel
      obtain ⟨-, line, member, same⟩ := reference_of_refersOnlyTo (only lines node) given
      obtain rfl := List.mem_singleton.mp member
      obtain rfl : other = CodePoints.ofString "line" := by simpa [referenceTo] using same
      simp
    · have nothing : lineDefinition.everyObject (refersOnlyTo []) = true := by decide +kernel
      obtain ⟨-, _, member, -⟩ := reference_of_refersOnlyTo (only nothing node) given
      cases member

/-- A street that is a number is found through two references, and without them. -/
theorem violations_of_numberedStreet :
    let data : Json := .object [(CodePoints.ofString "others", .array [
      .object [(CodePoints.ofString "street", .integer 5)]])]
    IsInlinable addressBook ∧
      (∀ keywords, Subschema (inlined addressBook [] addressBook) (.object keywords) →
        keyword? "$ref" keywords = none) ∧
      violations (some .null) [] (inlined addressBook [] addressBook) data =
        violations none [] addressBook data :=
  ⟨isInlinable_addressBook, (violations_inlined isInlinable_addressBook).1,
    (violations_inlined isInlinable_addressBook).2 _ _ _⟩

end Schema
end DiscoveryFiles
