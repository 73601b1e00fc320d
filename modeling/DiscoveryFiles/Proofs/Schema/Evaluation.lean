import DiscoveryFiles.Schema.Evaluation
import Mathlib.Control.Monad.Basic

/-!
# Subevaluations

An evaluation at a node looks at the same value again through alternatives and references, and at
the values that it holds through all other subschemas.  This file states the induction that follows
these calls, and describes the loops over subschemas, members and items by one operation.
-/

namespace DiscoveryFiles
namespace Schema

theorem bind_eq_ok_iff {ε α β : Type} {first : Except ε α} {next : α → Except ε β} {result : β} :
    first >>= next = .ok result ↔ ∃ value, first = .ok value ∧ next value = .ok result := by
  cases first with
  | error fault => simp [bind, Except.bind]
  | ok value => simp [bind, Except.bind]

@[simp]
theorem pure_eq_ok_iff {ε α : Type} {value result : α} :
    (pure value : Except ε α) = .ok result ↔ value = result := by
  simp [pure, Except.pure]

@[simp]
theorem ok_bind {ε α β : Type} (value : α) (next : α → Except ε β) :
    (Except.ok value >>= next) = next value := rfl

@[simp]
theorem error_bind {ε α β : Type} (fault : ε) (next : α → Except ε β) :
    (Except.error fault >>= next) = .error fault := rfl

/-! ## Induction along an evaluation -/

/-- A statement holds for all evaluations that the one at a node calls for. -/
structure Descends (context : Context) (motive : Location → List CodePoints → Json → Json → Prop)
    (location : Location) (followed : List CodePoints) (schema data : Json) : Prop where
  /-- The alternatives of the node, at the same value. -/
  alternatives : ∀ keywords subschemas, schema = .object keywords →
    keyword? "oneOf" keywords = some (.array subschemas) →
    ∀ subschema ∈ subschemas, motive location followed subschema data
  /-- The definition that the node refers to, at the same value. -/
  reference : ∀ reference name target,
    target? context.root reference = .ok (some (name, target)) → name ∉ followed →
    motive location (name :: followed) target data
  /-- All schemas, at the members of an object. -/
  members : ∀ members name value, data = .object members → Json.member? name members = some value →
    ∀ location subschema, motive location [] subschema value
  /-- All schemas, at the items of an array. -/
  items : ∀ items item, data = .array items → item ∈ items →
    ∀ location subschema, motive location [] subschema item

/-- What passes from the subevaluations of each node to the node holds for all evaluations. -/
theorem check_induction (context : Context)
    {motive : Location → List CodePoints → Json → Json → Prop}
    (node : ∀ location followed schema data,
      Descends context motive location followed schema data →
        motive location followed schema data)
    (location : Location) (followed : List CodePoints) (schema data : Json) :
    motive location followed schema data :=
  node location followed schema data
    { alternatives := fun _ _ _ _ subschema _ =>
        check_induction context node location followed subschema data
      reference := fun _ name target _ _ =>
        check_induction context node location (name :: followed) target data
      members := fun _ _ value _ _ location subschema =>
        check_induction context node location [] subschema value
      items := fun _ item _ _ location subschema =>
        check_induction context node location [] subschema item }
termination_by (sizeOf data, unfollowed context.root followed, sizeOf schema)
decreasing_by
  · rename_i keywords subschemas schema_eq found member
    apply Prod.Lex.right
    apply Prod.Lex.right
    have inArray := sizeOf_lt_of_member? found
    have inList := List.sizeOf_lt_of_mem member
    subst schema_eq
    simp only [Json.array.sizeOf_spec] at inArray
    simp only [Json.object.sizeOf_spec]
    omega
  · rename_i found fresh
    apply Prod.Lex.right
    apply Prod.Lex.left
    exact unfollowed_cons_lt found fresh
  · rename_i data_eq found
    apply Prod.Lex.left
    have inMembers := sizeOf_lt_of_member? found
    subst data_eq
    simp only [Json.object.sizeOf_spec]
    omega
  · rename_i data_eq member
    apply Prod.Lex.left
    have inItems := List.sizeOf_lt_of_mem member
    subst data_eq
    simp only [Json.array.sizeOf_spec]
    omega

/-! ## Alternatives and references -/

section Alternatives

variable {context : Context} {location : Location} {followed : List CodePoints}
  {subschemas : List Json} {data : Json}

theorem anyAccepts_eq_true
    (accepted : anyAccepts context location followed subschemas data = .ok true) :
    ∃ subschema ∈ subschemas, check context location followed subschema data = .ok [] := by
  induction subschemas with
  | nil => simp [anyAccepts] at accepted
  | cons subschema others induction =>
      rw [anyAccepts] at accepted
      split at accepted
      · cases accepted
      next empty => exact ⟨subschema, List.mem_cons_self, empty⟩
      · obtain ⟨other, member, empty⟩ := induction accepted
        exact ⟨other, List.mem_cons_of_mem subschema member, empty⟩

theorem anyAccepts_eq_false
    (refused : anyAccepts context location followed subschemas data = .ok false) :
    ∀ subschema ∈ subschemas, ∃ violation violations,
      check context location followed subschema data = .ok (violation :: violations) := by
  induction subschemas with
  | nil => simp
  | cons subschema others induction =>
      rw [anyAccepts] at refused
      split at refused
      · cases refused
      · cases refused
      next violation violations found =>
        intro other member
        rcases List.mem_cons.mp member with rfl | inOthers
        · exact ⟨violation, violations, found⟩
        · exact induction refused other inOthers

/-- A reference is followed to the definition that it leads to, unless that is being followed. -/
theorem follow_eq (context : Context) (location : Location) (followed : List CodePoints)
    (reference data : Json) :
    follow context location followed reference data =
      match target? context.root reference with
      | .error fault => .error fault
      | .ok none => .ok [⟨location, .unresolved reference⟩]
      | .ok (some (name, schema)) =>
          if name ∈ followed then .error .endless
          else check context location (name :: followed) schema data := by
  rw [follow.eq_def]
  split <;> simp_all

theorem follow_eq_check {reference target : Json} {name : CodePoints}
    (found : target? context.root reference = .ok (some (name, target)))
    (fresh : name ∉ followed) :
    follow context location followed reference data =
      check context location (name :: followed) target data := by
  rw [follow_eq, found]
  exact if_neg fresh

end Alternatives

/-! ## Loops that collect violations -/

/-- The violations that each element of a list leads to, one after the other. -/
def gather {α : Type} (violationsOf : α → Except Fault (List Violation)) :
    List α → Except Fault (List Violation)
  | [] => .ok []
  | element :: others => do
      let first ← violationsOf element
      let rest ← gather violationsOf others
      return first ++ rest

section Gather

variable {α : Type} {violationsOf : α → Except Fault (List Violation)} {elements : List α}
  {violations : List Violation}

private theorem gather_cons_eq_ok_iff {element : α} :
    gather violationsOf (element :: elements) = .ok violations ↔
      ∃ first rest, violationsOf element = .ok first ∧ gather violationsOf elements = .ok rest ∧
        violations = first ++ rest := by
  simp only [gather, bind_eq_ok_iff, pure_eq_ok_iff]
  constructor
  · rintro ⟨first, first_eq, rest, rest_eq, rfl⟩
    exact ⟨first, rest, first_eq, rest_eq, rfl⟩
  · rintro ⟨first, rest, first_eq, rest_eq, rfl⟩
    exact ⟨first, first_eq, rest, rest_eq, rfl⟩

/-- A loop that ends has got through every element. -/
theorem exists_of_gather (collected : gather violationsOf elements = .ok violations) :
    ∀ element ∈ elements, ∃ found, violationsOf element = .ok found := by
  induction elements generalizing violations with
  | nil => simp
  | cons element others induction =>
      obtain ⟨first, rest, first_eq, rest_eq, rfl⟩ := gather_cons_eq_ok_iff.mp collected
      intro other member
      rcases List.mem_cons.mp member with rfl | inOthers
      · exact ⟨first, first_eq⟩
      · exact induction rest_eq other inOthers

/-- What a loop finds is what its elements lead to. -/
theorem mem_gather_iff (collected : gather violationsOf elements = .ok violations)
    {violation : Violation} :
    violation ∈ violations ↔
      ∃ element ∈ elements, ∃ found, violationsOf element = .ok found ∧ violation ∈ found := by
  induction elements generalizing violations with
  | nil =>
      obtain rfl : [] = violations := Except.ok.inj collected
      simp
  | cons element others induction =>
      obtain ⟨first, rest, first_eq, rest_eq, rfl⟩ := gather_cons_eq_ok_iff.mp collected
      simp [induction rest_eq, first_eq]

/-- A loop finds nothing exactly when no element leads to a violation. -/
theorem gather_eq_nil_iff :
    gather violationsOf elements = .ok [] ↔
      ∀ element ∈ elements, violationsOf element = .ok [] := by
  induction elements with
  | nil => simp [gather]
  | cons element others induction =>
      rw [gather_cons_eq_ok_iff, List.forall_mem_cons, ← induction]
      constructor
      · rintro ⟨first, rest, first_eq, rest_eq, append_eq⟩
        obtain ⟨rfl, rfl⟩ := List.append_eq_nil_iff.mp append_eq.symm
        exact ⟨first_eq, rest_eq⟩
      · rintro ⟨first_eq, rest_eq⟩
        exact ⟨[], [], first_eq, rest_eq, rfl⟩

end Gather

theorem requiredViolations_eq_gather (base : Text) (location : Location)
    (members : List (CodePoints × Json)) (keys : List Json) :
    requiredViolations base location members keys =
      gather (requiredViolation base location members) keys := by
  induction keys with
  | nil => rfl
  | cons key keys induction => rw [requiredViolations, gather, induction]

theorem checkMembers_eq_gather (context : Context) (location : Location)
    (members declared : List (CodePoints × Json)) :
    checkMembers context location members declared =
      gather (fun entry => checkMember context (location ++ [.member entry.1]) entry.2
        (Json.member? entry.1 members)) declared := by
  induction declared with
  | nil => rw [checkMembers, gather]
  | cons entry others induction => rw [checkMembers, gather, induction]

theorem checkItems_eq_gather (context : Context) (location : Location) (schema : Json)
    (index : Nat) (items : List Json) :
    checkItems context location schema index items =
      gather (fun entry => check context (location ++ [.item entry.2]) [] schema entry.1)
        (items.zipIdx index) := by
  induction items generalizing index with
  | nil => rw [checkItems, List.zipIdx_nil, gather]
  | cons item others induction => rw [checkItems, List.zipIdx_cons, gather, induction]

end Schema
end DiscoveryFiles
