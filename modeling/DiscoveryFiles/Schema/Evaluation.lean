import DiscoveryFiles.Schema.Reference

/-!
# Evaluating a schema

The violations of a value are listed keyword by keyword.  Alternatives and references look at the
same value again; all other subschemas look at values that it holds.  A reference that is met again
while it is being followed at the same value would be followed without end.
-/

namespace DiscoveryFiles
namespace Schema

/-- What stays the same throughout an evaluation. -/
structure Context where
  /-- The document that references look into. -/
  root : Json
  /-- The path of the outermost value. -/
  base : Text

theorem sizeOf_lt_of_member? {name : CodePoints} {members : List (CodePoints × Json)}
    {value : Json} (found : Json.member? name members = some value) :
    sizeOf value < sizeOf members := by
  induction members with
  | nil => simp [Json.member?] at found
  | cons entry members induction =>
      obtain ⟨key, first⟩ := entry
      simp only [Json.member?, List.lookup_cons] at found
      split at found
      · cases found
        simp
        omega
      · have := induction found
        simp
        omega

theorem sizeOf_member?_le (name : CodePoints) (members : List (CodePoints × Json)) :
    sizeOf (Json.member? name members) ≤ sizeOf members := by
  match found : Json.member? name members with
  | none =>
      cases members
      · simp
      · simp
        omega
  | some value =>
      have := sizeOf_lt_of_member? found
      simp
      omega

private theorem lex_zero_lt {n m : Nat} (positive : 0 < m) :
    Prod.Lex (· < ·) (· < ·) (0, 0) (n, m) := by
  cases n with
  | zero => exact Prod.Lex.right _ positive
  | succ n => exact Prod.Lex.left _ _ (Nat.succ_pos n)

mutual

/-- The violations of a schema by a value at a location, while the definitions with the given names
are being followed at the same value. -/
def check (context : Context) (location : Location) (followed : List CodePoints)
    (schema data : Json) : Except Fault (List Violation) :=
  match schema with
  | .object keywords =>
      match checkAlternatives context location followed (keyword? "oneOf" keywords) data with
      | .error fault => .error fault
      | .ok false => .ok [⟨location, .noAlternative⟩]
      | .ok true =>
          match keyword? "$ref" keywords with
          | some reference => follow context location followed reference data
          | none =>
              match typeViolation? location keywords data with
              | some violation => .ok [violation]
              | none => do
                  let own ← ownViolations location keywords data
                  let inner ← checkInside context location keywords data
                  return own ++ inner
  | _ => .ok []
termination_by (sizeOf data, unfollowed context.root followed, sizeOf schema)
decreasing_by
  · apply Prod.Lex.right
    apply Prod.Lex.right
    have := sizeOf_member?_le (CodePoints.ofString "oneOf") keywords
    simp only [keyword?, Json.object.sizeOf_spec]
    omega
  · apply Prod.Lex.right
    apply Prod.Lex.right
    simp only [Json.object.sizeOf_spec]
    omega
  · apply Prod.Lex.right
    apply lex_zero_lt
    simp only [Json.object.sizeOf_spec]
    omega

/-- Whether the alternatives of a schema accept a value.  The elements of a string or an object are
no schemas and accept everything. -/
def checkAlternatives (context : Context) (location : Location) (followed : List CodePoints)
    (alternatives : Option Json) (data : Json) : Except Fault Bool :=
  match alternatives with
  | none => .ok true
  | some (.array subschemas) => anyAccepts context location followed subschemas data
  | some value => (elements value).map fun values => !values.isEmpty
termination_by (sizeOf data, unfollowed context.root followed, sizeOf alternatives)
decreasing_by
  apply Prod.Lex.right
  apply Prod.Lex.right
  simp only [Option.some.sizeOf_spec, Json.array.sizeOf_spec]
  omega

/-- Whether one of the subschemas has no violation. -/
def anyAccepts (context : Context) (location : Location) (followed : List CodePoints)
    (subschemas : List Json) (data : Json) : Except Fault Bool :=
  match subschemas with
  | [] => .ok false
  | schema :: others =>
      match check context location followed schema data with
      | .error fault => .error fault
      | .ok [] => .ok true
      | .ok (_ :: _) => anyAccepts context location followed others data
termination_by (sizeOf data, unfollowed context.root followed, sizeOf subschemas)
decreasing_by
  · apply Prod.Lex.right
    apply Prod.Lex.right
    simp only [List.cons.sizeOf_spec]
    omega
  · apply Prod.Lex.right
    apply Prod.Lex.right
    simp only [List.cons.sizeOf_spec]
    omega

/-- The violations of the schema that a reference leads to. -/
def follow (context : Context) (location : Location) (followed : List CodePoints)
    (reference data : Json) : Except Fault (List Violation) :=
  match _found : target? context.root reference with
  | .error fault => .error fault
  | .ok none => .ok [⟨location, .unresolved reference⟩]
  | .ok (some (name, schema)) =>
      if _fresh : name ∈ followed then .error .endless
      else check context location (name :: followed) schema data
termination_by (sizeOf data, unfollowed context.root followed, 0)
decreasing_by
  apply Prod.Lex.right
  apply Prod.Lex.left
  exact unfollowed_cons_lt _found _fresh

/-- The violations of the keywords that look at what a value holds. -/
def checkInside (context : Context) (location : Location) (keywords : List (CodePoints × Json))
    (data : Json) : Except Fault (List Violation) :=
  match data with
  | .object members => do
      let keys ← requiredKeys keywords
      let required ← requiredViolations context.base location members keys
      let declared ← properties keywords
      let inner ← checkMembers context location members declared
      return required ++ inner ++ undeclaredViolations location keywords declared members
  | .array items => do
      let length ← lengthViolations location (keyword? "minItems" keywords) items.length .fewItems
      let inner ← checkItems context location ((keyword? "items" keywords).getD .null) 0 items
      return length ++ inner
  | _ => .ok []
termination_by (sizeOf data, 0, 0)
decreasing_by
  · apply Prod.Lex.left
    simp only [Json.object.sizeOf_spec]
    omega
  · apply Prod.Lex.left
    simp only [Json.array.sizeOf_spec]
    omega

/-- The violations by the declared members that an object has. -/
def checkMembers (context : Context) (location : Location) (members : List (CodePoints × Json))
    (declared : List (CodePoints × Json)) : Except Fault (List Violation) :=
  match declared with
  | [] => .ok []
  | (name, schema) :: others => do
      let first ←
        checkMember context (location ++ [.member name]) schema (Json.member? name members)
      let rest ← checkMembers context location members others
      return first ++ rest
termination_by (sizeOf members, 0, sizeOf declared)
decreasing_by
  · rcases Nat.lt_or_eq_of_le (sizeOf_member?_le name members) with less | same
    · exact Prod.Lex.left _ _ less
    · rw [same]
      apply Prod.Lex.right
      apply Prod.Lex.right
      simp only [List.cons.sizeOf_spec, Prod.mk.sizeOf_spec]
      omega
  · apply Prod.Lex.right
    apply Prod.Lex.right
    simp only [List.cons.sizeOf_spec]
    omega

/-- The violations by a member, if the object has it. -/
def checkMember (context : Context) (location : Location) (schema : Json) (value : Option Json) :
    Except Fault (List Violation) :=
  match value with
  | none => .ok []
  | some value => check context location [] schema value
termination_by (sizeOf value, 0, 0)
decreasing_by
  apply Prod.Lex.left
  simp only [Option.some.sizeOf_spec]
  omega

/-- The violations by the items of an array, counted from an index. -/
def checkItems (context : Context) (location : Location) (schema : Json) (index : Nat)
    (items : List Json) : Except Fault (List Violation) :=
  match items with
  | [] => .ok []
  | item :: others => do
      let first ← check context (location ++ [.item index]) [] schema item
      let rest ← checkItems context location schema (index + 1) others
      return first ++ rest
termination_by (sizeOf items, 0, 0)
decreasing_by
  · apply Prod.Lex.left
    simp only [List.cons.sizeOf_spec]
    omega
  · apply Prod.Lex.left
    simp only [List.cons.sizeOf_spec]
    omega

end

/-- The violations of a schema by a value whose path is `base`.  References look into `root`, or
into the schema itself if there is no root or a null one. -/
def violations (root : Option Json) (base : Text) (schema data : Json) :
    Except Fault (List Violation) :=
  let root :=
    match root with
    | none | some .null => schema
    | some root => root
  check ⟨root, base⟩ [] [] schema data

end Schema
end DiscoveryFiles
