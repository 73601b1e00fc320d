import DiscoveryFiles.Proofs.Schema.Demand

/-!
# Conformance

A value conforms to a schema under a root document by a finite derivation, which follows the
alternatives, references, members and items that the schema names.  An evaluation that comes to an
end finds no violation exactly when there is such a derivation.
-/

namespace DiscoveryFiles
namespace Schema

/-- A reference has the form of one and names a definition of the root that is not null. -/
def Resolves (root reference target : Json) : Prop :=
  ∃ name keywords definitions, reference = .string (CodePoints.ofString "#/$defs/" ++ name) ∧
    root = .object keywords ∧ keyword? "$defs" keywords = some (.object definitions) ∧
    Json.member? name definitions = some target ∧ target ≠ .null

mutual

/-- A value conforms to a schema under a root document. -/
inductive Conforms (root : Json) : Json → Json → Prop where
  /-- What is not an object accepts everything. -/
  | anything {schema data : Json} (notObject : ∀ keywords, schema ≠ .object keywords) :
      Conforms root schema data
  /-- Beside a reference, only the alternatives of a schema count. -/
  | reference {keywords : List (CodePoints × Json)} {reference target data : Json}
      (alternatives : ∀ value, keyword? "oneOf" keywords = some value →
        ConformsToSome root value data)
      (given : keyword? "$ref" keywords = some reference)
      (resolved : Resolves root reference target)
      (inner : Conforms root target data) :
      Conforms root (.object keywords) data
  /-- Without a reference, all keywords count. -/
  | keywords {keywords : List (CodePoints × Json)} {data : Json}
      (alternatives : ∀ value, keyword? "oneOf" keywords = some value →
        ConformsToSome root value data)
      (absent : keyword? "$ref" keywords = none)
      (suits : Suits keywords data)
      (inside : ConformsInside root keywords data) :
      Conforms root (.object keywords) data

/-- A value conforms to one of the elements of another one. -/
inductive ConformsToSome (root : Json) : Json → Json → Prop where
  | intro {value subschema data : Json} {subschemas : List Json}
      (listed : elements value = .ok subschemas) (member : subschema ∈ subschemas)
      (inner : Conforms root subschema data) :
      ConformsToSome root value data

/-- What a value holds is as the keywords of a schema ask. -/
inductive ConformsInside (root : Json) : List (CodePoints × Json) → Json → Prop where
  /-- An object has the right keys, and its declared members conform. -/
  | object {keywords members : List (CodePoints × Json)}
      (keys : Governs keywords "object" → KeysSuit keywords members)
      (inner : Governs keywords "object" → ∀ name subschema value,
        (name, subschema) ∈ declaredMembers keywords → Json.member? name members = some value →
        Conforms root subschema value) :
      ConformsInside root keywords (.object members)
  /-- An array has enough items, and they conform. -/
  | array {keywords : List (CodePoints × Json)} {items : List Json}
      (length : Governs keywords "array" → ∀ least, keyword? "minItems" keywords = some least →
        Reaches items.length least)
      (inner : Governs keywords "array" → ∀ subschema, keyword? "items" keywords = some subschema →
        ∀ item ∈ items, Conforms root subschema item) :
      ConformsInside root keywords (.array items)
  /-- All other values hold nothing. -/
  | atom {keywords : List (CodePoints × Json)} {data : Json}
      (notObject : ∀ members, data ≠ .object members) (notArray : ∀ items, data ≠ .array items) :
      ConformsInside root keywords data

end

/-! ## References -/

theorem definitionName?_eq_some_iff {reference : Json} {name : CodePoints} :
    definitionName? reference = some name ↔
      reference = .string (CodePoints.ofString "#/$defs/" ++ name) := by
  cases reference with
  | string points =>
      simp only [definitionName?, Option.ite_none_right_eq_some, Option.some.injEq,
        List.isPrefixOf_iff_prefix, Json.string.injEq]
      constructor
      · rintro ⟨⟨rest, rfl⟩, rfl⟩
        simp
      · rintro rfl
        simp
  | _ => simp [definitionName?]

theorem definition?_eq_some_iff {name : CodePoints} {definitions : List (CodePoints × Json)}
    {target : Json} :
    definition? name definitions = some target ↔
      Json.member? name definitions = some target ∧ target ≠ .null := by
  rw [definition?]
  split <;> simp_all
  rintro rfl
  simp_all

theorem definitions_eq_ok_iff {root : Json} {known : List (CodePoints × Json)} :
    definitions root = .ok known ↔ ∃ keywords, root = .object keywords ∧
      (keyword? "$defs" keywords = some (.object known) ∨
        keyword? "$defs" keywords = none ∧ known = []) := by
  cases root with
  | object keywords =>
      simp only [definitions, Json.object.injEq, exists_eq_left']
      cases keyword? "$defs" keywords with
      | none => simp [eq_comm]
      | some value => cases value <;> simp
  | _ => simp [definitions]

theorem target?_eq {root : Json} {name : CodePoints} {keywords known : List (CodePoints × Json)}
    {target : Json} (root_eq : root = .object keywords)
    (known_eq : keyword? "$defs" keywords = some (.object known))
    (member : Json.member? name known = some target) (given : target ≠ .null) :
    target? root (.string (CodePoints.ofString "#/$defs/" ++ name)) =
      .ok (some (name, target)) := by
  have defined := definitions_eq_ok_iff.mpr ⟨keywords, root_eq, .inl known_eq⟩
  simp [target?, definitionName?_eq_some_iff.mpr rfl, defined, Except.map,
    definition?_eq_some_iff.mpr ⟨member, given⟩]

/-- A reference leads to a definition exactly when it resolves to it. -/
theorem exists_target?_iff {root reference target : Json} :
    (∃ name, target? root reference = .ok (some (name, target))) ↔
      Resolves root reference target := by
  constructor
  · rintro ⟨name, found⟩
    rw [target?] at found
    split at found
    · cases found
    next given name_eq =>
      cases known_eq : definitions root with
      | error fault => simp [known_eq, Except.map] at found
      | ok known =>
          simp only [known_eq, Except.map, Except.ok.injEq, Option.map_eq_some_iff,
            Prod.mk.injEq] at found
          obtain ⟨_, found, rfl, rfl⟩ := found
          obtain ⟨member, given_ne⟩ := definition?_eq_some_iff.mp found
          obtain ⟨keywords, root_eq, known_eq | ⟨_, rfl⟩⟩ := definitions_eq_ok_iff.mp known_eq
          · exact ⟨given, keywords, known, definitionName?_eq_some_iff.mp name_eq, root_eq,
              known_eq, member, given_ne⟩
          · simp [Json.member?] at member
  · rintro ⟨name, keywords, known, rfl, root_eq, known_eq, member, given⟩
    exact ⟨name, target?_eq root_eq known_eq member given⟩

/-! ## Evaluations that end -/

/-- An evaluation that ends finds nothing exactly when the value conforms. -/
def Decides (context : Context) (location : Location) (followed : List CodePoints)
    (schema data : Json) : Prop :=
  ∀ violations, check context location followed schema data = .ok violations →
    (violations = [] ↔ Conforms context.root schema data)

private theorem Decides.eq_ok_nil {context : Context} {location : Location}
    {followed : List CodePoints}
    {schema data : Json} (decides : Decides context location followed schema data)
    (accepted : check context location followed schema data = .ok []) :
    Conforms context.root schema data :=
  (decides [] accepted).mp rfl

section Node

variable {context : Context} {location : Location} {followed : List CodePoints}
  {keywords : List (CodePoints × Json)} {data : Json}

private theorem anyAccepts_iff {subschemas : List Json} {accepted : Bool}
    (inner_decides : ∀ subschema ∈ subschemas, Decides context location followed subschema data)
    (returned : anyAccepts context location followed subschemas data = .ok accepted) :
    accepted = true ↔ ∃ subschema ∈ subschemas, Conforms context.root subschema data := by
  cases accepted with
  | true =>
      obtain ⟨subschema, member, empty⟩ := anyAccepts_eq_true returned
      simp only [true_iff]
      exact ⟨subschema, member, (inner_decides subschema member).eq_ok_nil empty⟩
  | false =>
      simp only [Bool.false_eq_true, false_iff]
      rintro ⟨subschema, member, conforms⟩
      obtain ⟨violation, violations, found⟩ := anyAccepts_eq_false returned subschema member
      exact List.cons_ne_nil _ _ ((inner_decides subschema member _ found).mpr conforms)

/-- What a string or an object lists are strings, which accept everything. -/
theorem conforms_of_elements {value subschema root : Json} {subschemas : List Json}
    (notArray : ∀ items, value ≠ .array items) (listed : elements value = .ok subschemas)
    (member : subschema ∈ subschemas) : Conforms root subschema data := by
  apply Conforms.anything
  rintro keywords rfl
  cases value with
  | array items => exact notArray items rfl
  | string points =>
      simp only [elements, Except.ok.injEq] at listed
      subst listed
      simp at member
  | object members =>
      simp only [elements, Except.ok.injEq] at listed
      subst listed
      simp at member
  | _ => simp [elements] at listed

private theorem conformsToSome_iff {root value : Json} {subschemas : List Json}
    (listed : elements value = .ok subschemas) :
    ConformsToSome root value data ↔ ∃ subschema ∈ subschemas, Conforms root subschema data := by
  constructor
  · rintro ⟨listed', member, inner⟩
    rw [listed, Except.ok.injEq] at listed'
    subst listed'
    exact ⟨_, member, inner⟩
  · rintro ⟨subschema, member, inner⟩
    exact .intro listed member inner

private theorem checkAlternatives_iff {accepted : Bool}
    (inner_decides : ∀ subschemas, keyword? "oneOf" keywords = some (.array subschemas) →
      ∀ subschema ∈ subschemas, Decides context location followed subschema data)
    (returned :
      checkAlternatives context location followed (keyword? "oneOf" keywords) data =
        .ok accepted) :
    accepted = true ↔ ∀ value, keyword? "oneOf" keywords = some value →
      ConformsToSome context.root value data := by
  cases oneOf_eq : keyword? "oneOf" keywords with
  | none =>
      rw [oneOf_eq, checkAlternatives] at returned
      simp_all
  | some value =>
      simp only [Option.some.injEq, forall_eq']
      rw [oneOf_eq] at returned
      by_cases isArray : ∃ subschemas, value = .array subschemas
      · obtain ⟨subschemas, rfl⟩ := isArray
        rw [checkAlternatives] at returned
        rw [conformsToSome_iff rfl]
        exact anyAccepts_iff (inner_decides subschemas oneOf_eq) returned
      · have notArray : ∀ items, value ≠ .array items := fun items same => isArray ⟨items, same⟩
        rw [checkAlternatives] at returned
        · cases listed : elements value with
          | error fault => simp [listed, Except.map] at returned
          | ok subschemas =>
              rw [conformsToSome_iff listed]
              cases subschemas with
              | nil => simp_all [Except.map]
              | cons first others =>
                  have conforms : Conforms context.root first data :=
                    conforms_of_elements notArray listed List.mem_cons_self
                  obtain rfl : true = accepted := by simpa [listed, Except.map] using returned
                  simp only [true_iff]
                  exact ⟨first, List.mem_cons_self, conforms⟩
        · exact notArray

private theorem follow_iff {reference : Json} {violations : List Violation}
    (inner_decides : ∀ name target, target? context.root reference = .ok (some (name, target)) →
      name ∉ followed → Decides context location (name :: followed) target data)
    (returned : follow context location followed reference data = .ok violations) :
    violations = [] ↔
      ∃ target, Resolves context.root reference target ∧ Conforms context.root target data := by
  rw [follow.eq_def] at returned
  split at returned
  · cases returned
  next none_found =>
    obtain rfl : [_] = violations := Except.ok.inj returned
    simp only [List.cons_ne_self, false_iff]
    rintro ⟨target, resolved, _⟩
    obtain ⟨name, found⟩ := exists_target?_iff.mpr resolved
    rw [none_found] at found
    cases found
  next name target found =>
    split at returned
    · cases returned
    next fresh =>
      rw [inner_decides name target found fresh violations returned]
      constructor
      · intro conforms
        exact ⟨target, exists_target?_iff.mp ⟨name, found⟩, conforms⟩
      · rintro ⟨other, resolved, conforms⟩
        obtain ⟨otherName, otherFound⟩ := exists_target?_iff.mpr resolved
        rw [found] at otherFound
        cases otherFound
        exact conforms

private theorem checkMember_eq_ok_nil_iff {schema : Json} {value : Option Json} :
    checkMember context location schema value = .ok [] ↔
      ∀ inner, value = some inner → check context location [] schema inner = .ok [] := by
  cases value with
  | none => simp [checkMember]
  | some value => simp [checkMember]

/-- What the loop over declared members finds. -/
theorem checkMembers_iff {members declared : List (CodePoints × Json)}
    {violations : List Violation}
    (inner_decides : ∀ name value, Json.member? name members = some value →
      ∀ location subschema, Decides context location [] subschema value)
    (returned : checkMembers context location members declared = .ok violations) :
    violations = [] ↔ ∀ name subschema value, (name, subschema) ∈ declared →
      Json.member? name members = some value → Conforms context.root subschema value := by
  rw [checkMembers_eq_gather] at returned
  have ended := exists_of_gather returned
  have empty_iff : violations = [] ↔ ∀ entry ∈ declared,
      checkMember context (location ++ [.member entry.1]) entry.2
        (Json.member? entry.1 members) = .ok [] := by
    rw [← gather_eq_nil_iff, returned, Except.ok.injEq]
  rw [empty_iff]
  constructor
  · intro empty name subschema value declaredHere found
    have inner_empty :=
      checkMember_eq_ok_nil_iff.mp (empty (name, subschema) declaredHere) value found
    exact (inner_decides name value found _ subschema).eq_ok_nil inner_empty
  · rintro conform ⟨name, subschema⟩ declaredHere
    rw [checkMember_eq_ok_nil_iff]
    intro value found
    obtain ⟨inner, inner_eq⟩ := ended (name, subschema) declaredHere
    simp only [found, checkMember] at inner_eq
    have conforms := conform name subschema value declaredHere found
    rw [inner_eq, (inner_decides name value found _ subschema inner inner_eq).mpr conforms]

/-- What the loop over items finds. -/
theorem checkItems_iff {schema : Json} {items : List Json} {violations : List Violation}
    (inner_decides : ∀ item ∈ items, ∀ location subschema,
      Decides context location [] subschema item)
    (returned : checkItems context location schema 0 items = .ok violations) :
    violations = [] ↔ ∀ item ∈ items, Conforms context.root schema item := by
  rw [checkItems_eq_gather] at returned
  have ended := exists_of_gather returned
  have empty_iff : violations = [] ↔ ∀ entry ∈ items.zipIdx 0,
      check context (location ++ [.item entry.2]) [] schema entry.1 = .ok [] := by
    rw [← gather_eq_nil_iff, returned, Except.ok.injEq]
  rw [empty_iff]
  constructor
  · intro empty item member
    obtain ⟨index, _, rfl⟩ := List.mem_iff_getElem.mp member
    have entry_mem : (items[index], index) ∈ items.zipIdx 0 := by
      simp [List.mem_zipIdx_iff_getElem?]
    exact (inner_decides _ member _ schema).eq_ok_nil (empty _ entry_mem)
  · rintro conform ⟨item, index⟩ entry_mem
    have member : item ∈ items :=
      List.mem_of_getElem? (List.mem_zipIdx_iff_getElem?.mp entry_mem)
    obtain ⟨inner, inner_eq⟩ := ended (item, index) entry_mem
    have inner_nil := (inner_decides item member _ schema inner inner_eq).mpr (conform item member)
    rw [inner_eq, inner_nil]

/-- A loop over required keys that ends finds nothing exactly when the object has them all. -/
theorem requiredViolations_iff {base : Text} {members : List (CodePoints × Json)}
    {keys : List Json} {violations : List Violation} (keys_eq : requiredKeys keywords = .ok keys)
    (returned : requiredViolations base location members keys = .ok violations) :
    violations = [] ↔ ∀ value, keyword? "required" keywords = some value →
      ∃ keys, elements value = .ok keys ∧ ∀ key ∈ keys, HasKey members key := by
  have each : ∀ key, requiredViolation base location members key = .ok [] ↔ HasKey members key :=
    fun _ => requiredViolation_eq_nil_iff
  have empty_iff : violations = [] ↔ ∀ key ∈ keys, HasKey members key := by
    rw [requiredViolations_eq_gather] at returned
    simp only [← each]
    rw [← gather_eq_nil_iff, returned, Except.ok.injEq]
  rw [empty_iff]
  rw [requiredKeys] at keys_eq
  cases required_eq : keyword? "required" keywords with
  | none => simp_all
  | some value => simp_all

private theorem checkInside_object_iff {members : List (CodePoints × Json)}
    {violations : List Violation}
    (typed : HasType keywords (.object members))
    (inner_decides : ∀ name value, Json.member? name members = some value →
      ∀ location subschema, Decides context location [] subschema value)
    (returned : checkInside context location keywords (.object members) = .ok violations) :
    violations = [] ↔ ConformsInside context.root keywords (.object members) := by
  rw [checkInside] at returned
  obtain ⟨keys, keys_eq, returned⟩ := bind_eq_ok_iff.mp returned
  obtain ⟨required, required_eq, returned⟩ := bind_eq_ok_iff.mp returned
  obtain ⟨declared, declared_eq, returned⟩ := bind_eq_ok_iff.mp returned
  obtain ⟨inner, inner_eq, returned⟩ := bind_eq_ok_iff.mp returned
  obtain rfl := pure_eq_ok_iff.mp returned
  rw [List.append_eq_nil_iff, List.append_eq_nil_iff, requiredViolations_iff keys_eq required_eq,
    checkMembers_iff inner_decides inner_eq, undeclaredViolations_eq_nil_iff,
    ← properties_eq declared_eq]
  have governs : Governs keywords "object" := Governs.of_hasType typed (by simp [Json.IsWhole])
  constructor
  · rintro ⟨⟨present, conform⟩, closed⟩
    exact .object (fun _ => ⟨present, closed⟩) (fun _ => conform)
  · intro inside
    cases inside with
    | object keysSuit inner =>
        exact ⟨⟨(keysSuit governs).required, inner governs⟩, (keysSuit governs).closed⟩
    | atom notObject _ => exact absurd rfl (notObject members)

private theorem checkInside_array_iff {items : List Json} {violations : List Violation}
    (typed : HasType keywords (.array items))
    (inner_decides : ∀ item ∈ items, ∀ location subschema,
      Decides context location [] subschema item)
    (returned : checkInside context location keywords (.array items) = .ok violations) :
    violations = [] ↔ ConformsInside context.root keywords (.array items) := by
  rw [checkInside] at returned
  obtain ⟨lengths, lengths_eq, returned⟩ := bind_eq_ok_iff.mp returned
  obtain ⟨inner, inner_eq, returned⟩ := bind_eq_ok_iff.mp returned
  obtain rfl := pure_eq_ok_iff.mp returned
  rw [List.append_eq_nil_iff, lengthViolations_eq_nil_iff lengths_eq,
    checkItems_iff inner_decides inner_eq]
  have governs : Governs keywords "array" := Governs.of_hasType typed (by simp [Json.IsWhole])
  constructor
  · rintro ⟨long, conform⟩
    refine .array (fun _ => long) fun _ subschema subschema_eq => ?_
    simpa [subschema_eq] using conform
  · intro inside
    cases inside with
    | array length inner =>
        refine ⟨length governs, ?_⟩
        cases subschema_eq : keyword? "items" keywords with
        | none => exact fun _ _ => .anything (by simp)
        | some subschema => exact inner governs subschema subschema_eq
    | atom _ notArray => exact absurd rfl (notArray items)

/-- What the keywords find that look at what a value of the declared type holds. -/
theorem checkInside_iff {violations : List Violation} (typed : HasType keywords data)
    (decideMembers : ∀ members name value, data = .object members →
      Json.member? name members = some value →
      ∀ location subschema, Decides context location [] subschema value)
    (decideItems : ∀ items item, data = .array items → item ∈ items →
      ∀ location subschema, Decides context location [] subschema item)
    (returned : checkInside context location keywords data = .ok violations) :
    violations = [] ↔ ConformsInside context.root keywords data := by
  cases data with
  | object members =>
      exact checkInside_object_iff typed (fun name value => decideMembers members name value rfl)
        returned
  | array items =>
      exact checkInside_array_iff typed (fun item => decideItems items item rfl) returned
  | _ =>
      rw [checkInside, Except.ok.injEq] at returned
      · subst returned
        simp only [true_iff]
        exact .atom (by simp) (by simp)
      all_goals simp

end Node

/-- The last steps of an evaluation, behind alternatives and references. -/
theorem checkKeywords_iff {context : Context} {location : Location} {followed : List CodePoints}
    {keywords : List (CodePoints × Json)} {data : Json} {violations : List Violation}
    (descends : Descends context (Decides context) location followed (.object keywords) data)
    (accepted : checkAlternatives context location followed (keyword? "oneOf" keywords) data =
      .ok true)
    (absent : keyword? "$ref" keywords = none)
    (returned : check context location followed (.object keywords) data = .ok violations) :
    violations = [] ↔ Suits keywords data ∧ ConformsInside context.root keywords data := by
  simp only [check, accepted, absent] at returned
  cases type_eq : typeViolation? location keywords data with
  | some violation =>
      simp only [type_eq, Except.ok.injEq] at returned
      subst returned
      simp only [List.cons_ne_self, false_iff]
      rintro ⟨suits, _⟩
      rw [(typeViolation?_eq_none_iff location keywords data).mpr suits.type] at type_eq
      cases type_eq
  | none =>
      simp only [type_eq] at returned
      have typed := (typeViolation?_eq_none_iff location keywords data).mp type_eq
      obtain ⟨own, own_eq, returned⟩ := bind_eq_ok_iff.mp returned
      obtain ⟨inner, inner_eq, returned⟩ := bind_eq_ok_iff.mp returned
      obtain rfl := pure_eq_ok_iff.mp returned
      rw [List.append_eq_nil_iff, ← ownViolations_eq_nil_iff own_eq,
        checkInside_iff typed descends.members descends.items inner_eq]
      simp [typed]

/-- At every node, an evaluation that ends decides conformance if its subevaluations do. -/
theorem decides_node {context : Context} {location : Location} {followed : List CodePoints}
    {schema data : Json}
    (descends : Descends context (Decides context) location followed schema data) :
    Decides context location followed schema data := by
  intro violations returned
  by_cases isObject : ∃ keywords, schema = .object keywords
  · obtain ⟨keywords, rfl⟩ := isObject
    cases alternatives_eq :
        checkAlternatives context location followed (keyword? "oneOf" keywords) data with
    | error fault => simp [check, alternatives_eq] at returned
    | ok accepted =>
        have alternatives_iff := checkAlternatives_iff
          (fun subschemas found => descends.alternatives keywords subschemas rfl found)
          alternatives_eq
        cases accepted with
        | false =>
            simp only [check, alternatives_eq, Except.ok.injEq] at returned
            subst returned
            simp only [List.cons_ne_self, false_iff]
            intro conforms
            cases conforms with
            | anything notObject => exact notObject keywords rfl
            | reference alternatives =>
                exact Bool.false_ne_true (alternatives_iff.mpr alternatives)
            | keywords alternatives =>
                exact Bool.false_ne_true (alternatives_iff.mpr alternatives)
        | true =>
            have alternatives := alternatives_iff.mp rfl
            cases reference_eq : keyword? "$ref" keywords with
            | some reference =>
                simp only [check, alternatives_eq, reference_eq] at returned
                rw [follow_iff (descends.reference reference) returned]
                constructor
                · rintro ⟨target, resolved, inner⟩
                  exact .reference alternatives reference_eq resolved inner
                · intro conforms
                  cases conforms with
                  | anything notObject => exact absurd rfl (notObject keywords)
                  | reference _ given resolved inner =>
                      rw [reference_eq, Option.some.injEq] at given
                      subst given
                      exact ⟨_, resolved, inner⟩
                  | keywords _ absent => simp [reference_eq] at absent
            | none =>
                rw [checkKeywords_iff descends alternatives_eq reference_eq returned]
                constructor
                · rintro ⟨suits, inside⟩
                  exact .keywords alternatives reference_eq suits inside
                · intro conforms
                  cases conforms with
                  | anything notObject => exact absurd rfl (notObject keywords)
                  | reference _ given => simp [reference_eq] at given
                  | keywords _ _ suits inside => exact ⟨suits, inside⟩
  · have notObject : ∀ keywords, schema ≠ .object keywords :=
      fun keywords same => isObject ⟨keywords, same⟩
    rw [check, Except.ok.injEq] at returned
    · subst returned
      simp only [true_iff]
      exact .anything notObject
    · exact notObject

private theorem decides (context : Context) (location : Location) (followed : List CodePoints)
    (schema data : Json) : Decides context location followed schema data :=
  check_induction context (fun _ _ _ _ => decides_node) location followed schema data

/-! ## Conformance -/

/-- The document that references look into, which is the schema itself if no other is given. -/
def rootFor (root : Option Json) (schema : Json) : Json :=
  match root with
  | none | some .null => schema
  | some root => root

theorem violations_eq_check (root : Option Json) (base : Text) (schema data : Json) :
    violations root base schema data = check ⟨rootFor root schema, base⟩ [] [] schema data := by
  cases root with
  | none => rfl
  | some root => cases root <;> rfl

/-- An evaluation that comes to an end finds no violation exactly when the value conforms to the
schema under the root document. -/
theorem violations_eq_nil_iff_conforms {root : Option Json} {base : Text} {schema data : Json}
    {found : List Violation} (returned : violations root base schema data = .ok found) :
    found = [] ↔ Conforms (rootFor root schema) schema data := by
  rw [violations_eq_check] at returned
  exact decides _ [] [] schema data found returned

/-- A schema for arrays that hold nothing but arrays, and so on. -/
def nestedArrays : Json :=
  .object [
    (CodePoints.ofString "$ref", .words "#/$defs/nest"),
    (CodePoints.ofString "$defs", .object [
      (CodePoints.ofString "nest", .object [
        (CodePoints.ofString "type", .words "array"),
        (CodePoints.ofString "items", .object [
          (CodePoints.ofString "$ref", .words "#/$defs/nest")])])])]

private theorem follow_nestedArrays (location : Location) (data : Json) :
    follow ⟨nestedArrays, []⟩ location [] (.words "#/$defs/nest") data =
      check ⟨nestedArrays, []⟩ location [CodePoints.ofString "nest"]
        (.object [
          (CodePoints.ofString "type", .words "array"),
          (CodePoints.ofString "items", .object [
            (CodePoints.ofString "$ref", .words "#/$defs/nest")])]) data :=
  follow_eq_check rfl List.not_mem_nil

/-- A number two levels down is found, and the arrays around it do not conform. -/
theorem nestedArrays_not_conforms :
    violations none [] nestedArrays (.array [.array [], .array [.integer 0]]) =
        .ok [⟨[.item 1, .item 0], .wrongType (.words "array") "number"⟩] ∧
      ¬ Conforms nestedArrays nestedArrays (.array [.array [], .array [.integer 0]]) := by
  have evaluated : violations none [] nestedArrays (.array [.array [], .array [.integer 0]]) =
      .ok [⟨[.item 1, .item 0], .wrongType (.words "array") "number"⟩] := by
    rw [violations_eq_check, rootFor]
    nth_rewrite 2 [nestedArrays]
    simp [check, checkAlternatives, follow_nestedArrays, typeViolation?, Json.typeName,
      ownViolations, optionViolations, constantViolations, checkInside, checkItems,
      lengthViolations]
  refine ⟨evaluated, fun conforms => ?_⟩
  exact List.cons_ne_nil _ _ ((violations_eq_nil_iff_conforms evaluated).mpr conforms)

end Schema
end DiscoveryFiles
