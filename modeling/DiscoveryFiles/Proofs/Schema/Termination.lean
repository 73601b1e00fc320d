import DiscoveryFiles.Proofs.Schema.Origin
import Mathlib.Order.WellFounded

/-!
# Evaluations that end

Alternatives and references look at the same value again, and nothing about the schema need get
smaller on the way: a definition may refer to itself.  If no chain of such steps goes on for ever,
every evaluation ends, since all other steps go to smaller values.
-/

namespace DiscoveryFiles
namespace Schema

/-! ## Chains at one value -/

/-- A node leads to another one at the same value: to one of its alternatives, or to the definition
that it refers to. -/
inductive LeadsBeside (root : Json) : Json → Json → Prop where
  /-- To one of the alternatives. -/
  | alternative {keywords : List (CodePoints × Json)} {subschemas : List Json} {subschema : Json}
      (found : keyword? "oneOf" keywords = some (.array subschemas))
      (member : subschema ∈ subschemas) : LeadsBeside root (.object keywords) subschema
  /-- To the definition that is referred to. -/
  | reference {keywords : List (CodePoints × Json)} {reference target : Json}
      (given : keyword? "$ref" keywords = some reference)
      (resolved : Resolves root reference target) : LeadsBeside root (.object keywords) target

/-- The schemas that a document is made of. -/
inductive Subschema (root : Json) : Json → Prop where
  /-- The document itself. -/
  | whole : Subschema root root
  /-- An alternative. -/
  | alternative {keywords : List (CodePoints × Json)} {subschemas : List Json} {subschema : Json}
      (outer : Subschema root (.object keywords))
      (found : keyword? "oneOf" keywords = some (.array subschemas))
      (member : subschema ∈ subschemas) : Subschema root subschema
  /-- The schema of a declared member. -/
  | property {keywords declared : List (CodePoints × Json)} {name : CodePoints} {subschema : Json}
      (outer : Subschema root (.object keywords))
      (found : keyword? "properties" keywords = some (.object declared))
      (member : (name, subschema) ∈ declared) : Subschema root subschema
  /-- The schema of the items. -/
  | items {keywords : List (CodePoints × Json)} {subschema : Json}
      (outer : Subschema root (.object keywords))
      (found : keyword? "items" keywords = some subschema) : Subschema root subschema
  /-- A definition. -/
  | definition {keywords definitions : List (CodePoints × Json)} {name : CodePoints}
      {subschema : Json} (outer : Subschema root (.object keywords))
      (found : keyword? "$defs" keywords = some (.object definitions))
      (member : (name, subschema) ∈ definitions) : Subschema root subschema

/-- No chain of steps at one value that starts from a schema of the document goes on for ever. -/
def ChainsEnd (root : Json) : Prop :=
  ¬ ∃ chain : ℕ → Json, Subschema root (chain 0) ∧
    ∀ n, LeadsBeside root (chain n) (chain (n + 1))

/-- All chains of steps at one value that start from a node end. -/
abbrev ChainsEndFrom (root : Json) : Json → Prop :=
  Acc fun later earlier => LeadsBeside root earlier later

theorem ChainsEnd.chainsEndFrom {root node : Json} (ends : ChainsEnd root)
    (subschema : Subschema root node) : ChainsEndFrom root node := by
  rw [ChainsEndFrom, acc_iff_isEmpty_descending_chain]
  refine ⟨fun ⟨chain, start, steps⟩ => ends ⟨chain, ?_, steps⟩⟩
  rw [start]
  exact subschema

/-! ## Nested evaluations -/

/-- The evaluation of a schema at a value calls for that of another schema at another value. -/
inductive Calls (root : Json) : Json × Json → Json × Json → Prop where
  /-- A step at the same value. -/
  | beside {schema next data : Json} (leads : LeadsBeside root schema next) :
      Calls root (schema, data) (next, data)
  /-- A step to a declared member. -/
  | member {keywords declared members : List (CodePoints × Json)} {name : CodePoints}
      {subschema value : Json} (found : keyword? "properties" keywords = some (.object declared))
      (declares : (name, subschema) ∈ declared) (given : Json.member? name members = some value) :
      Calls root (.object keywords, .object members) (subschema, value)
  /-- A step to an item. -/
  | item {keywords : List (CodePoints × Json)} {items : List Json} {subschema item : Json}
      (found : keyword? "items" keywords = some subschema) (member : item ∈ items) :
      Calls root (.object keywords, .array items) (subschema, item)

/-- Evaluations that a schema at a value calls for are nested to a finite depth. -/
abbrev NestsFinitely (root schema data : Json) : Prop :=
  Acc (fun inner outer => Calls root outer inner) (schema, data)

section Nesting

variable {root : Json} {nodes : Json → Prop}

/-- References lead to definitions of the document. -/
theorem subschema_of_target? {reference target : Json} {name : CodePoints}
    (found : target? root reference = .ok (some (name, target))) : Subschema root target := by
  obtain ⟨_, keywords, _, -, root_eq, known_eq, member, -⟩ := exists_target?_iff.mp ⟨name, found⟩
  have node : Subschema root (.object keywords) := root_eq ▸ .whole
  exact .definition node known_eq (Json.mem_of_member? member)

/-- The schemas of a document lead to no others. -/
theorem closed_subschema (root : Json) : Closed root (Subschema root) where
  alternatives _ _ node found _ member := .alternative node found member
  reference _ _ _ _ _ _ resolved := subschema_of_target? resolved
  members _ _ node declared_eq _ member :=
    .property node (keyword?_properties_of_mem declared_eq member) member
  items _ _ node found := .items node found

/-- If the objects in a document pass a test, so do those in its schemas. -/
theorem Subschema.everyObject {test : List (CodePoints × Json) → Bool} {node : Json}
    (subschema : Subschema root node) (every : root.everyObject test = true) :
    node.everyObject test = true := by
  induction subschema with
  | whole => exact every
  | alternative _ found member outer =>
      exact Json.everyObject_of_mem_items (everyObject_of_keyword? outer found) member
  | property _ found member outer | definition _ found member outer =>
      exact Json.everyObject_of_mem_members (everyObject_of_keyword? outer found) member
  | items _ found outer => exact everyObject_of_keyword? outer found

private theorem Closed.leadsBeside {node next : Json} (closed : Closed root nodes)
    (start : nodes node)
    (leads : LeadsBeside root node next) : nodes next := by
  cases leads with
  | alternative found member => exact closed.alternatives _ _ start found _ member
  | reference given resolved =>
      obtain ⟨name, found⟩ := exists_target?_iff.mpr resolved
      exact closed.reference _ _ name _ start given found

/-- A document has no endless chains if some rank of its schemas falls from step to step. -/
theorem chainsEnd_of_rank (rank : Json → ℕ)
    (falls : ∀ node next, Subschema root node → LeadsBeside root node next →
      rank next < rank node) : ChainsEnd root := by
  rintro ⟨chain, start, steps⟩
  have inside (n : ℕ) : Subschema root (chain n) := by
    induction n with
    | zero => exact start
    | succ n induction => exact (closed_subschema root).leadsBeside induction (steps n)
  have bound (n : ℕ) : rank (chain n) + n ≤ rank (chain 0) := by
    induction n with
    | zero => exact le_rfl
    | succ n induction =>
        have := falls _ _ (inside n) (steps n)
        omega
  have := bound (rank (chain 0) + 1)
  omega

/-- Where all chains at one value end, evaluations are nested to a finite depth: a step that is not
one of a chain goes to a smaller value. -/
theorem Closed.nestsFinitely (closed : Closed root nodes)
    (ends : ∀ node, nodes node → ChainsEndFrom root node) {schema : Json} (start : nodes schema)
    (data : Json) : NestsFinitely root schema data := by
  induction size : sizeOf data using Nat.strong_induction_on generalizing schema data with
  | _ n smaller =>
    induction ends schema start with
    | intro schema _ further =>
      refine ⟨_, fun ⟨inner, value⟩ call => ?_⟩
      cases call with
      | beside leads => exact further inner leads (closed.leadsBeside start leads)
      | member found declares given =>
          have less := sizeOf_lt_of_member? given
          have inner_node := closed.members _ _ start (by rw [properties, found]) _ declares
          refine smaller _ ?_ inner_node value rfl
          simp only [← size, Json.object.sizeOf_spec]
          omega
      | item found member =>
          have less := List.sizeOf_lt_of_mem member
          refine smaller _ ?_ (closed.items _ _ start found) value rfl
          simp only [← size, Json.array.sizeOf_spec]
          omega

end Nesting

/-! ## Outcomes -/

/-- An evaluation does not end in the fault of a loop without end. -/
def Ends {α : Type} (outcome : Except Fault α) : Prop :=
  outcome ≠ .error .endless

section Outcome

variable {α β : Type}

@[simp]
theorem ends_ok (value : α) : Ends (.ok value) := by simp [Ends]

@[simp]
theorem ends_error_iff {fault : Fault} :
    Ends (.error fault : Except Fault α) ↔ fault ≠ .endless := by
  simp [Ends]

theorem Ends.bind {outcome : Except Fault α} {next : α → Except Fault β} (first : Ends outcome)
    (second : ∀ value, outcome = .ok value → Ends (next value)) : Ends (outcome >>= next) := by
  cases outcome with
  | error fault => simpa using first
  | ok value => exact second value rfl

theorem Ends.map {outcome : Except Fault α} {f : α → β} (ends : Ends outcome) :
    Ends (outcome.map f) := by
  cases outcome with
  | error fault => simpa [Except.map] using ends
  | ok value => simp [Except.map]

private theorem ends_gather {violationsOf : α → Except Fault (List Violation)} {elements : List α}
    (each : ∀ element ∈ elements, Ends (violationsOf element)) :
    Ends (gather violationsOf elements) := by
  induction elements with
  | nil => simp [gather]
  | cons element others induction =>
      obtain ⟨first, rest⟩ := List.forall_mem_cons.mp each
      exact first.bind fun _ _ => (induction rest).bind fun _ _ => ends_ok _

end Outcome

/-! ## Keywords -/

section Keyword

variable {location : Location} {keywords members : List (CodePoints × Json)}

private theorem ends_elements (value : Json) : Ends (elements value) := by
  cases value <;> simp [elements]

private theorem ends_definitions (root : Json) : Ends (definitions root) := by
  cases root with
  | object keywords =>
      rw [definitions]
      split <;> simp
  | _ => simp [definitions]

private theorem ends_target? (root reference : Json) : Ends (target? root reference) := by
  rw [target?]
  split
  · simp
  · exact (ends_definitions root).map

private theorem ends_lengthViolations (least : Option Json) (length : Nat)
    (cause : Nat → Json → Cause) :
    Ends (lengthViolations location least length cause) := by
  have compared (value : Json) : Ends (isBelow length value) := by
    rw [isBelow]
    split <;> simp
  rw [lengthViolations.eq_def]
  split
  · simp
  · simp
  · refine (compared _).bind fun below _ => ?_
    cases below <;> simp [pure, Except.pure]

private theorem ends_patternViolations (pattern : Option Json) (data : CodePoints) :
    Ends (patternViolations location pattern data) := by
  have ofPattern (points : CodePoints) (error : Pattern.Error) :
      Fault.ofPattern points error ≠ .endless := by
    rw [Fault.ofPattern]
    split <;> simp
  rw [patternViolations.eq_def]
  split
  · simp
  · split
    · simp
    · split
      · split
        · exact ends_error_iff.mpr (ofPattern _ _)
        · split <;> simp
      all_goals simp

private theorem ends_optionViolations (data : Json) :
    Ends (optionViolations location keywords data) := by
  rw [optionViolations]
  split
  · simp
  · refine (ends_elements _).bind fun options _ => ?_
    cases options.any data.equal <;> simp [pure, Except.pure]

private theorem ends_ownViolations (data : Json) : Ends (ownViolations location keywords data) := by
  refine (ends_optionViolations data).bind fun options _ => ?_
  cases data with
  | string points =>
      refine (ends_lengthViolations _ _ _).bind fun _ _ => ?_
      exact (ends_patternViolations _ _).bind fun _ _ => ends_ok _
  | _ => exact ends_ok _

private theorem ends_requiredKeys : Ends (requiredKeys keywords) := by
  rw [requiredKeys]
  split
  · simp
  · exact ends_elements _

private theorem ends_requiredViolations (base : Text) (keys : List Json) :
    Ends (requiredViolations base location members keys) := by
  rw [requiredViolations_eq_gather]
  refine ends_gather fun key _ => ?_
  rw [requiredViolation.eq_def]
  split
  · split <;> simp
  · simp
  · simp
  · split <;> simp

private theorem ends_properties : Ends (properties keywords) := by
  rw [properties]
  split
  · simp
  · simp
  · split <;> simp

end Keyword

/-! ## Evaluations -/

section Node

variable {context : Context} {nodes : Json → Prop} {location : Location}
  {followed : List CodePoints} {keywords : List (CodePoints × Json)} {data : Json}

private theorem ends_checkAlternatives
    (each : ∀ subschemas, keyword? "oneOf" keywords = some (.array subschemas) →
      ∀ subschema ∈ subschemas, Ends (check context location followed subschema data)) :
    Ends (checkAlternatives context location followed (keyword? "oneOf" keywords) data) := by
  have any (subschemas : List Json)
      (each : ∀ subschema ∈ subschemas, Ends (check context location followed subschema data)) :
      Ends (anyAccepts context location followed subschemas data) := by
    induction subschemas with
    | nil => simp [anyAccepts]
    | cons subschema others induction =>
        obtain ⟨first, rest⟩ := List.forall_mem_cons.mp each
        rw [anyAccepts]
        split
        next fault failed =>
          rw [failed] at first
          simpa using first
        · simp
        · exact induction rest
  rw [checkAlternatives.eq_def]
  split
  · simp
  next subschemas found => exact any subschemas (each subschemas found)
  · exact (ends_elements _).map

/-- The node that an evaluation has come to lies on a chain behind the definition with a name. -/
def LiesBehind (root node : Json) (name : CodePoints) : Prop :=
  ∃ target, target? root (.string (CodePoints.ofString "#/$defs/" ++ name)) =
      .ok (some (name, target)) ∧
    Relation.ReflTransGen (LeadsBeside root) target node

theorem LiesBehind.next {root node next : Json} {name : CodePoints}
    (behind : LiesBehind root node name) (leads : LeadsBeside root node next) :
    LiesBehind root next name := by
  obtain ⟨target, found, chain⟩ := behind
  exact ⟨target, found, chain.tail leads⟩

/-- A node from which all chains end is on no chain behind itself. -/
theorem ChainsEndFrom.not_transGen {root node : Json} (ends : ChainsEndFrom root node) :
    ¬ Relation.TransGen (LeadsBeside root) node node := by
  induction ends with
  | intro node _ induction =>
      intro cycle
      obtain ⟨next, leads, back⟩ := Relation.TransGen.head'_iff.mp cycle
      exact induction next leads (Relation.TransGen.tail'_iff.mpr ⟨node, back, leads⟩)

theorem reference_eq_of_target? {root reference target : Json} {name : CodePoints}
    (found : target? root reference = .ok (some (name, target))) :
    reference = .string (CodePoints.ofString "#/$defs/" ++ name) := by
  rw [target?] at found
  split at found
  · cases found
  next given name_eq =>
    cases known_eq : definitions root with
    | error fault => simp [known_eq, Except.map] at found
    | ok known =>
        simp only [known_eq, Except.map, Except.ok.injEq, Option.map_eq_some_iff,
          Prod.mk.injEq] at found
        obtain ⟨_, -, rfl, -⟩ := found
        exact definitionName?_eq_some_iff.mp name_eq

/-- The definition that a node refers to lies behind itself, and behind whatever the node does. -/
theorem LiesBehind.of_target? {root reference node target : Json} {name : CodePoints}
    {followed : List CodePoints} (behind : ∀ other ∈ followed, LiesBehind root node other)
    (found : target? root reference = .ok (some (name, target)))
    (leads : LeadsBeside root node target) :
    ∀ other ∈ name :: followed, LiesBehind root target other := by
  refine List.forall_mem_cons.mpr ⟨⟨target, ?_, .refl⟩, fun other member => ?_⟩
  · rw [← reference_eq_of_target? found, found]
  · exact (behind other member).next leads

/-- The evaluation of a node ends, whatever definitions on a chain to it are being followed. -/
def Finishes (context : Context) (nodes : Json → Prop) (location : Location)
    (followed : List CodePoints) (schema data : Json) : Prop :=
  nodes schema → (∀ name ∈ followed, LiesBehind context.root schema name) →
    Ends (check context location followed schema data)

private theorem ends_follow {reference : Json} (closed : Closed context.root nodes)
    (chains : ∀ node, nodes node → ChainsEndFrom context.root node)
    (node : nodes (.object keywords)) (given : keyword? "$ref" keywords = some reference)
    (behind : ∀ name ∈ followed, LiesBehind context.root (.object keywords) name)
    (inner : ∀ name target, target? context.root reference = .ok (some (name, target)) →
      name ∉ followed → Finishes context nodes location (name :: followed) target data) :
    Ends (follow context location followed reference data) := by
  rw [follow.eq_def]
  split
  next fault failed =>
    have ends := ends_target? context.root reference
    rw [failed] at ends
    simpa using ends
  · simp
  next name target found =>
    have leads : LeadsBeside context.root (.object keywords) target :=
      .reference given (exists_target?_iff.mp ⟨name, found⟩)
    have target_node : nodes target := closed.leadsBeside node leads
    split
    next followed_already =>
      -- The definition leads back to the node that refers to it, which closes a cycle.
      obtain ⟨other, found_again, chain⟩ := behind name followed_already
      rw [← reference_eq_of_target? found, found] at found_again
      cases found_again
      exact absurd (Relation.TransGen.tail' chain leads) (chains target target_node).not_transGen
    next fresh =>
      exact inner name target found fresh target_node (LiesBehind.of_target? behind found leads)

private theorem ends_checkInside (closed : Closed context.root nodes)
    (node : nodes (.object keywords))
    (ofMembers : ∀ members name value, data = .object members →
      Json.member? name members = some value →
      ∀ location subschema, Finishes context nodes location [] subschema value)
    (ofItems : ∀ items item, data = .array items → item ∈ items →
      ∀ location subschema, Finishes context nodes location [] subschema item) :
    Ends (checkInside context location keywords data) := by
  have unfollowed {schema : Json} :
      ∀ name ∈ ([] : List CodePoints), LiesBehind context.root schema name := by simp
  cases data with
  | object members =>
      rw [checkInside]
      refine ends_requiredKeys.bind fun keys _ => ?_
      refine (ends_requiredViolations _ keys).bind fun required _ => ?_
      refine ends_properties.bind fun declared declared_eq => ?_
      refine Ends.bind ?_ fun inner _ => ends_ok _
      rw [checkMembers_eq_gather]
      refine ends_gather fun entry declares => ?_
      cases found : Json.member? entry.1 members with
      | none => simp [checkMember]
      | some value =>
          rw [checkMember]
          have entry_node := closed.members keywords declared node declared_eq entry declares
          exact ofMembers members entry.1 value rfl found _ entry.2 entry_node unfollowed
  | array items =>
      rw [checkInside]
      refine (ends_lengthViolations _ _ _).bind fun lengths _ => ?_
      refine Ends.bind ?_ fun inner _ => ends_ok _
      rw [checkItems_eq_gather]
      refine ends_gather fun entry listed => ?_
      have item_mem : entry.1 ∈ items :=
        List.mem_of_getElem? (List.mem_zipIdx_iff_getElem?.mp listed)
      cases found : keyword? "items" keywords with
      | none => simp [check]
      | some schema =>
          rw [Option.getD_some]
          have item_node := closed.items keywords schema node found
          exact ofItems items entry.1 rfl item_mem _ schema item_node unfollowed
  | _ => simp [checkInside]

/-- At every node, the evaluation ends if its subevaluations do. -/
theorem finishes_node {schema : Json} (closed : Closed context.root nodes)
    (chains : ∀ node, nodes node → ChainsEndFrom context.root node)
    (descends : Descends context (Finishes context nodes) location followed schema data) :
    Finishes context nodes location followed schema data := by
  intro node behind
  cases schema with
  | object keywords =>
      have alternatives : Ends
          (checkAlternatives context location followed (keyword? "oneOf" keywords) data) := by
        refine ends_checkAlternatives fun subschemas found subschema member => ?_
        have leads : LeadsBeside context.root (.object keywords) subschema :=
          .alternative found member
        exact descends.alternatives keywords subschemas rfl found subschema member
          (closed.leadsBeside node leads) fun name followed => (behind name followed).next leads
      rw [check]
      split
      next fault failed =>
        rw [failed] at alternatives
        simpa using alternatives
      · simp
      · split
        next reference given =>
          exact ends_follow closed chains node given behind (descends.reference reference)
        · split
          · simp
          · refine (ends_ownViolations data).bind fun own _ => ?_
            exact (ends_checkInside closed node descends.members descends.items).bind
              fun inner _ => ends_ok _
  | _ => simp [check]

/-- Where all chains at one value end, all evaluations end. -/
theorem finishes (closed : Closed context.root nodes)
    (chains : ∀ node, nodes node → ChainsEndFrom context.root node) (location : Location)
    (followed : List CodePoints) (schema data : Json) :
    Finishes context nodes location followed schema data :=
  check_induction context (fun _ _ _ _ => finishes_node closed chains) location followed schema
    data

end Node

/-- A null document has no other schemas than itself. -/
theorem rootFor_eq_of_subschema {root schema : Json} (subschema : Subschema root schema) :
    rootFor (some root) schema = root := by
  cases root with
  | null =>
      have inside (node : Json) (subschema : Subschema .null node) : node = .null := by
        induction subschema with
        | whole => rfl
        | alternative _ _ _ outer | property _ _ _ outer | items _ _ outer
        | definition _ _ _ outer => cases outer
      exact inside schema subschema
  | _ => rfl

/-- If no chain of alternatives and references at one value goes on for ever, then evaluating a
schema of the document at a value nests only finitely deep and ends, with violations or with a
fault other than an endless loop.  Definitions may still refer to themselves through members and
items. -/
theorem violations_of_chainsEnd {root schema : Json} (chains : ChainsEnd root)
    (subschema : Subschema root schema) (base : Text) (data : Json) :
    NestsFinitely root schema data ∧
      ((∃ found, violations (some root) base schema data = .ok found) ∨
        ∃ fault, violations (some root) base schema data = .error fault ∧ fault ≠ .endless) := by
  have closed := closed_subschema root
  have chains_from (node : Json) (inside : Subschema root node) : ChainsEndFrom root node :=
    chains.chainsEndFrom inside
  refine ⟨closed.nestsFinitely chains_from subschema data, ?_⟩
  have ends : Ends (violations (some root) base schema data) := by
    rw [violations_eq_check, rootFor_eq_of_subschema subschema]
    exact finishes closed chains_from [] [] schema data subschema (by simp)
  cases evaluated : violations (some root) base schema data with
  | ok found => exact .inl ⟨found, rfl⟩
  | error fault =>
      rw [evaluated, ends_error_iff] at ends
      exact .inr ⟨fault, rfl, ends⟩

/-- The definition that `nestedArrays` refers to, which refers to itself for its items. -/
def nest : Json :=
  .object [
    (CodePoints.ofString "type", .words "array"),
    (CodePoints.ofString "items", .object [
      (CodePoints.ofString "$ref", .words "#/$defs/nest")])]

private theorem subschema_nestedArrays_cases {node : Json}
    (subschema : Subschema nestedArrays node) :
    node = nestedArrays ∨ node = nest ∨
      node = .object [(CodePoints.ofString "$ref", .words "#/$defs/nest")] := by
  induction subschema with
  | whole => exact .inl rfl
  | alternative _ found _ outer | property _ found _ outer =>
      rcases outer with same | same | same <;> cases same <;> simp at found
  | items _ found outer =>
      rcases outer with same | same | same <;> cases same <;> simp at found
      exact .inr (.inr found.symm)
  | definition _ found member outer =>
      rcases outer with same | same | same <;> cases same <;> simp at found
      subst found
      obtain ⟨-, rfl⟩ := Prod.mk.inj (List.mem_singleton.mp member)
      exact .inr (.inl rfl)

/-- A rank for schemas in which references lead to nodes without a reference. -/
def referenceCount : Json → ℕ
  | .object keywords => (keyword? "$ref" keywords).toList.length
  | _ => 0

/-- A chain goes from the document or from a reference to the definition, and no further. -/
theorem chainsEnd_nestedArrays : ChainsEnd nestedArrays := by
  refine chainsEnd_of_rank referenceCount fun node next inside leads => ?_
  have falls {reference : Json} (given : Json.words "#/$defs/nest" = reference)
      (resolved : Resolves nestedArrays reference next) : referenceCount next < 1 := by
    obtain ⟨name, found⟩ := exists_target?_iff.mpr resolved
    subst given
    cases found
    exact Nat.zero_lt_one
  rcases subschema_nestedArrays_cases inside with rfl | rfl | rfl
  · cases leads with
    | alternative found => simp at found
    | reference given resolved => exact falls (Option.some.inj given) resolved
  · cases leads with
    | alternative found => simp at found
    | reference given => simp at given
  · cases leads with
    | alternative found => simp at found
    | reference given resolved => exact falls (Option.some.inj given) resolved

/-- A definition that refers to itself through its items has no endless chains, and arrays of arrays
are checked against it to the end. -/
theorem violations_of_nestedArrays :
    ChainsEnd nestedArrays ∧ Subschema nestedArrays nestedArrays ∧
      NestsFinitely nestedArrays nestedArrays (.array [.array []]) ∧
      ((∃ found, violations (some nestedArrays) [] nestedArrays (.array [.array []]) = .ok found) ∨
        ∃ fault, violations (some nestedArrays) [] nestedArrays (.array [.array []]) =
          .error fault ∧ fault ≠ .endless) :=
  ⟨chainsEnd_nestedArrays, .whole,
    violations_of_chainsEnd chainsEnd_nestedArrays .whole [] (.array [.array []])⟩

end Schema
end DiscoveryFiles
