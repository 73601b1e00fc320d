import DiscoveryFiles.Proofs.Schema.Origin

/-!
# Where faults come from

An evaluation is stopped by a loop without end, or by a keyword of one of the nodes which it comes
to.  Nothing that it looks at on the way to such a keyword adds a fault of its own.
-/

namespace DiscoveryFiles
namespace Schema

/-! ## Sequences of steps -/

theorem bind_eq_error_iff {ε α β : Type} {first : Except ε α} {next : α → Except ε β} {fault : ε} :
    first >>= next = .error fault ↔
      first = .error fault ∨ ∃ value, first = .ok value ∧ next value = .error fault := by
  cases first with
  | error other => simp [bind, Except.bind]
  | ok value => simp [bind, Except.bind]

/-- A loop is stopped by one of its elements. -/
theorem exists_of_gather_eq_error {α : Type} {violationsOf : α → Except Fault (List Violation)}
    {elements : List α} {fault : Fault} (stopped : gather violationsOf elements = .error fault) :
    ∃ element ∈ elements, violationsOf element = .error fault := by
  induction elements with
  | nil => cases stopped
  | cons element others induction =>
      rcases bind_eq_error_iff.mp stopped with here | ⟨first, -, rest⟩
      · exact ⟨element, List.mem_cons_self, here⟩
      · rcases bind_eq_error_iff.mp rest with later | ⟨found, -, ended⟩
        · obtain ⟨other, member, other_eq⟩ := induction later
          exact ⟨other, List.mem_cons_of_mem element member, other_eq⟩
        · cases ended

/-! ## Faults and keywords -/

/-- A keyword of a node stops the evaluation at some value. -/
inductive Stops (context : Context) (keywords : List (CodePoints × Json)) (fault : Fault) :
    Prop where
  /-- The alternatives cannot be listed. -/
  | alternatives {value : Json} (given : keyword? "oneOf" keywords = some value)
      (failed : elements value = .error fault)
  /-- The document has no definitions to look into. -/
  | reference {reference : Json} (given : keyword? "$ref" keywords = some reference)
      (failed : target? context.root reference = .error fault)
  /-- A keyword that looks at a value alone fails. -/
  | own {location : Location} {data : Json}
      (failed : ownViolations location keywords data = .error fault)
  /-- The required keys cannot be listed. -/
  | keys (failed : requiredKeys keywords = .error fault)
  /-- One of the required keys cannot be looked for. -/
  | key {location : Location} {members : List (CodePoints × Json)} {keys : List Json} {key : Json}
      (listed : requiredKeys keywords = .ok keys) (member : key ∈ keys)
      (failed : requiredViolation context.base location members key = .error fault)
  /-- There are no members in what should declare them. -/
  | properties (failed : properties keywords = .error fault)
  /-- The number of items cannot be compared with the least one. -/
  | length {location : Location} {count : Nat}
      (failed : lengthViolations location (keyword? "minItems" keywords) count .fewItems =
        .error fault)

/-- A fault is a loop without end, or a keyword of one of some nodes leads to it. -/
def IsExplained (context : Context) (nodes : Json → Prop) (fault : Fault) : Prop :=
  fault = .endless ∨ ∃ keywords, nodes (.object keywords) ∧ Stops context keywords fault

/-- Whatever fault stops the evaluation of a node, it is explained by the nodes. -/
def Explains (context : Context) (nodes : Json → Prop) (location : Location)
    (followed : List CodePoints) (schema data : Json) : Prop :=
  nodes schema → ∀ fault, check context location followed schema data = .error fault →
    IsExplained context nodes fault

/-! ## Evaluations -/

section Node

variable {context : Context} {nodes : Json → Prop} {location : Location}
  {followed : List CodePoints} {keywords : List (CodePoints × Json)} {data : Json} {fault : Fault}

/-- The alternatives are tried one after the other until one of them fails. -/
theorem exists_of_anyAccepts_eq_error {subschemas : List Json}
    (stopped : anyAccepts context location followed subschemas data = .error fault) :
    ∃ subschema ∈ subschemas, check context location followed subschema data = .error fault := by
  induction subschemas with
  | nil => simp [anyAccepts] at stopped
  | cons subschema others induction =>
      rw [anyAccepts] at stopped
      split at stopped
      next other failed =>
        obtain rfl : other = fault := Except.error.inj stopped
        exact ⟨subschema, List.mem_cons_self, failed⟩
      · cases stopped
      · obtain ⟨other, member, failed⟩ := induction stopped
        exact ⟨other, List.mem_cons_of_mem subschema member, failed⟩

private theorem isExplained_checkAlternatives (node : nodes (.object keywords))
    (inner : ∀ subschemas, keyword? "oneOf" keywords = some (.array subschemas) →
      ∀ subschema ∈ subschemas, ∀ fault,
        check context location followed subschema data = .error fault →
          IsExplained context nodes fault)
    (stopped : checkAlternatives context location followed (keyword? "oneOf" keywords) data =
      .error fault) : IsExplained context nodes fault := by
  rw [checkAlternatives.eq_def] at stopped
  split at stopped
  · cases stopped
  next subschemas given =>
    obtain ⟨subschema, member, failed⟩ := exists_of_anyAccepts_eq_error stopped
    exact inner subschemas given subschema member fault failed
  next value _ given =>
    refine .inr ⟨keywords, node, .alternatives given ?_⟩
    cases listed : elements value with
    | error other => simpa [listed, Except.map] using stopped
    | ok values => simp [listed, Except.map] at stopped

private theorem isExplained_follow {reference : Json} (closed : Closed context.root nodes)
    (node : nodes (.object keywords)) (given : keyword? "$ref" keywords = some reference)
    (inner : ∀ name target, target? context.root reference = .ok (some (name, target)) →
      name ∉ followed → Explains context nodes location (name :: followed) target data)
    (stopped : follow context location followed reference data = .error fault) :
    IsExplained context nodes fault := by
  rw [follow.eq_def] at stopped
  split at stopped
  next other failed =>
    obtain rfl : other = fault := Except.error.inj stopped
    exact .inr ⟨keywords, node, .reference given failed⟩
  · cases stopped
  next name target found =>
    split at stopped
    · exact .inl (Except.error.inj stopped).symm
    next fresh =>
      have target_node := closed.reference keywords reference name target node given found
      exact inner name target found fresh target_node fault stopped

private theorem isExplained_checkInside (closed : Closed context.root nodes)
    (node : nodes (.object keywords))
    (ofMembers : ∀ members name value, data = .object members →
      Json.member? name members = some value →
      ∀ location subschema, Explains context nodes location [] subschema value)
    (ofItems : ∀ items item, data = .array items → item ∈ items →
      ∀ location subschema, Explains context nodes location [] subschema item)
    (stopped : checkInside context location keywords data = .error fault) :
    IsExplained context nodes fault := by
  have stops (reason : Stops context keywords fault) : IsExplained context nodes fault :=
    .inr ⟨keywords, node, reason⟩
  cases data with
  | object members =>
      rw [checkInside] at stopped
      rcases bind_eq_error_iff.mp stopped with failed | ⟨keys, keys_eq, stopped⟩
      · exact stops (.keys failed)
      rcases bind_eq_error_iff.mp stopped with failed | ⟨required, -, stopped⟩
      · rw [requiredViolations_eq_gather] at failed
        obtain ⟨key, member, failed⟩ := exists_of_gather_eq_error failed
        exact stops (.key keys_eq member failed)
      rcases bind_eq_error_iff.mp stopped with failed | ⟨declared, declared_eq, stopped⟩
      · exact stops (.properties failed)
      rcases bind_eq_error_iff.mp stopped with failed | ⟨inner, -, ended⟩
      · rw [checkMembers_eq_gather] at failed
        obtain ⟨entry, declares, failed⟩ := exists_of_gather_eq_error failed
        have entry_node := closed.members keywords declared node declared_eq entry declares
        cases found : Json.member? entry.1 members with
        | none => simp [found, checkMember] at failed
        | some value =>
            rw [found, checkMember] at failed
            exact ofMembers members entry.1 value rfl found _ entry.2 entry_node fault failed
      · cases ended
  | array items =>
      rw [checkInside] at stopped
      rcases bind_eq_error_iff.mp stopped with failed | ⟨lengths, -, stopped⟩
      · exact stops (.length failed)
      rcases bind_eq_error_iff.mp stopped with failed | ⟨inner, -, ended⟩
      · rw [checkItems_eq_gather] at failed
        obtain ⟨entry, listed, failed⟩ := exists_of_gather_eq_error failed
        have item_mem : entry.1 ∈ items :=
          List.mem_of_getElem? (List.mem_zipIdx_iff_getElem?.mp listed)
        cases found : keyword? "items" keywords with
        | none => simp [found, check] at failed
        | some schema =>
            rw [found, Option.getD_some] at failed
            have item_node := closed.items keywords schema node found
            exact ofItems items entry.1 rfl item_mem _ schema item_node fault failed
      · cases ended
  | _ => simp [checkInside] at stopped

/-- At every node, faults are explained if those of the subevaluations are. -/
theorem explains_node {schema : Json} (closed : Closed context.root nodes)
    (descends : Descends context (Explains context nodes) location followed schema data) :
    Explains context nodes location followed schema data := by
  intro node fault stopped
  cases schema with
  | object keywords =>
      rw [check] at stopped
      split at stopped
      next other failed =>
        obtain rfl : other = fault := Except.error.inj stopped
        refine isExplained_checkAlternatives node ?_ failed
        intro subschemas given subschema member
        exact descends.alternatives keywords subschemas rfl given subschema member
          (closed.alternatives keywords subschemas node given subschema member)
      · cases stopped
      · split at stopped
        next reference given =>
          exact isExplained_follow closed node given (descends.reference reference) stopped
        · split at stopped
          · cases stopped
          · rcases bind_eq_error_iff.mp stopped with failed | ⟨own, -, stopped⟩
            · exact .inr ⟨keywords, node, .own failed⟩
            rcases bind_eq_error_iff.mp stopped with failed | ⟨inner, -, ended⟩
            · exact isExplained_checkInside closed node descends.members descends.items failed
            · cases ended
  | _ => simp [check] at stopped

/-- A fault that stops an evaluation is a loop without end, or a keyword of one of the nodes that it
comes to leads to it. -/
theorem isExplained_of_check_eq_error {schema : Json} (closed : Closed context.root nodes)
    (node : nodes schema) (stopped : check context location followed schema data = .error fault) :
    IsExplained context nodes fault :=
  check_induction context (fun _ _ _ _ => explains_node closed) location followed schema data node
    fault stopped

end Node

end Schema
end DiscoveryFiles
