import DiscoveryFiles.Proofs.Schema.WellFormed

/-!
# Places of violations

Where a violation is does not depend on the path of the outermost value: that path is only written
in front of the steps to the place.  The steps lead to a value in the data, or to a member which an
object there lacks.
-/

namespace DiscoveryFiles
namespace Schema

/-! ## Written places -/

/-- A step as it is written behind something else. -/
def Step.written : Step → Text
  | member name => '.' :: name.shown
  | item index => '[' :: Nat.toDigits 10 index ++ [']']

/-- The steps to a place, written behind the path of the outermost value.  A name has no dot in
front of it if nothing precedes it, and the outermost value is named if it has no path. -/
def Location.written (base : Text) (place : Location) : Text :=
  match base, place with
  | [], [] => rootPath.toList
  | [], .member name :: inner => name.shown ++ inner.flatMap Step.written
  | base, place => base ++ place.flatMap Step.written

/-- All names on the way to a place have characters. -/
def Location.IsNamed (place : Location) : Prop :=
  ∀ name, Step.member name ∈ place → name ≠ []

section Written

variable {base : Text} {place : Location}

private theorem Step.extend_of_ne_nil (some_path : base ≠ []) (step : Step) :
    step.extend base = base ++ step.written := by
  cases step with
  | member name => simp [extend, written, memberPath, some_path]
  | item index => simp [extend, written]

theorem Location.path_of_ne_nil (some_path : base ≠ []) :
    place.path base = base ++ place.flatMap Step.written := by
  induction place generalizing base with
  | nil => simp [path]
  | cons step inner induction =>
      have longer : step.extend base ≠ [] := by
        rw [step.extend_of_ne_nil some_path]
        exact List.append_ne_nil_of_left_ne_nil some_path _
      rw [path, List.foldl_cons, ← path, induction longer, step.extend_of_ne_nil some_path,
        List.flatMap_cons, List.append_assoc]

theorem Location.IsNamed.dropLast (named : place.IsNamed) :
    Location.IsNamed place.dropLast :=
  fun name member => named name (List.mem_of_mem_dropLast member)

/-- A place other than the outermost value without a path is written step by step. -/
theorem Location.path_eq_written (named : Location.IsNamed place.dropLast)
    (some_step : base ≠ [] ∨ place ≠ []) : place.path base = place.written base := by
  cases base with
  | cons c base =>
      rw [path_of_ne_nil (List.cons_ne_nil c base)]
      rfl
  | nil =>
      cases place with
      | nil => simp at some_step
      | cons step inner =>
          rw [path, List.foldl_cons, ← path]
          cases step with
          | item index =>
              rw [path_of_ne_nil (by simp [Step.extend])]
              simp [written, Step.extend, Step.written]
          | member name =>
              cases inner with
              | nil => simp [path, written, Step.extend, memberPath]
              | cons next inner =>
                  have first : name ≠ [] := named name (by simp)
                  have shown_ne : name.shown ≠ [] := by simpa [CodePoints.shown] using first
                  rw [path_of_ne_nil (by simpa [Step.extend, memberPath] using shown_ne)]
                  simp [written, Step.extend, memberPath]

example : Location.written ['x'] [.item 0, .member (CodePoints.ofString "key")] =
    ['x', '[', '0', ']', '.', 'k', 'e', 'y'] := by
  decide

private theorem Location.path_eq_nil_iff (named : place.IsNamed) :
    place.path base = [] ↔ base = [] ∧ place = [] := by
  by_cases outermost : base = [] ∧ place = []
  · obtain ⟨rfl, rfl⟩ := outermost
    simp [path]
  · refine iff_of_false ?_ outermost
    rw [path_eq_written named.dropLast (not_and_or.mp outermost)]
    cases base with
    | cons c base => simp [written]
    | nil =>
        cases place with
        | nil => simp at outermost
        | cons step inner =>
            cases step with
            | item index => simp [written, Step.written]
            | member name =>
                have first : name ≠ [] := named name List.mem_cons_self
                simp [written, CodePoints.shown, first]

end Written

/-- The place of a violation.  A member that is absent or not declared has the place that it has or
would have in its object. -/
def Violation.place (violation : Violation) : Location :=
  match violation.cause with
  | .missing (.string name) | .undeclared name => violation.location ++ [.member name]
  | _ => violation.location

/-! ## Places in the data -/

theorem Location.find?_append (first second : Location) (data : Json) :
    (first ++ second).find? data = (first.find? data).bind second.find? := by
  induction first generalizing data with
  | nil => rfl
  | cons step first induction =>
      cases step with
      | member name =>
          cases data with
          | object members =>
              rw [List.cons_append, find?, find?, Option.bind_assoc]
              exact congrArg _ (funext induction)
          | _ => rfl
      | item index =>
          cases data with
          | array items =>
              rw [List.cons_append, find?, find?, Option.bind_assoc]
              exact congrArg _ (funext induction)
          | _ => rfl

/-- No object in a value has a member without a name. -/
def HasNames (data : Json) : Prop :=
  data.everyObject (fun members => members.all fun entry => !entry.1.isEmpty) = true

private theorem HasNames.isNamed {data value : Json} (names : HasNames data) {place : Location}
    (found : place.find? data = some value) : place.IsNamed := by
  induction place generalizing data with
  | nil => simp [Location.IsNamed]
  | cons step inner induction =>
      rw [Location.IsNamed]
      intro name member
      cases step with
      | member first =>
          cases data with
          | object members =>
              obtain ⟨next, next_eq, found⟩ := Option.bind_eq_some_iff.mp found
              rw [HasNames, Json.everyObject, Bool.and_eq_true] at names
              rcases List.mem_cons.mp member with same | later
              · cases same
                simpa using List.all_eq_true.mp names.1 (name, next) (Json.mem_of_member? next_eq)
              · exact induction (Json.everyObject_of_member? names.2 next_eq) found name later
          | _ => cases found
      | item index =>
          cases data with
          | array items =>
              obtain ⟨next, next_eq, found⟩ := Option.bind_eq_some_iff.mp found
              rcases List.mem_cons.mp member with same | later
              · cases same
              · have listed : next ∈ items := List.mem_of_getElem? next_eq
                exact induction (Json.everyObject_of_mem_items names listed) found name later
          | _ => cases found

/-- What is said about the members of a value is true. -/
def Cause.Applies (value : Json) : Cause → Prop
  | missing key => ∃ name members, key = .string name ∧ value = .object members ∧
      Json.member? name members = none
  | undeclared name => ∃ members inner, value = .object members ∧
      Json.member? name members = some inner
  | _ => True

/-- A violation is reported at its place. -/
theorem Violation.path_eq_written {violation : Violation} {value : Json} (base : Text)
    (named : violation.location.IsNamed) (applies : violation.cause.Applies value) :
    violation.path base = String.ofList (violation.place.written base) := by
  have ofMember (name : CodePoints) : memberPath (violation.location.path base) name.shown =
      Location.written base (violation.location ++ [.member name]) := by
    rw [← Location.path_eq_written (by simpa using named) (by simp)]
    simp [Location.path, Step.extend]
  rw [path, place]
  cases cause_eq : violation.cause with
  | missing key =>
      rw [cause_eq] at applies
      obtain ⟨name, members, rfl, -⟩ := applies
      exact congrArg String.ofList (ofMember name)
  | undeclared name => exact congrArg String.ofList (ofMember name)
  | _ =>
      simp only [List.isEmpty_iff, Location.path_eq_nil_iff named]
      split
      next outermost =>
        rw [outermost.1, outermost.2, Location.written, String.ofList_toList]
      next other =>
        rw [Location.path_eq_written named.dropLast (not_and_or.mp other)]

/-- A place belongs to a cause in some data: it is that of a value or, if a member is absent, the
one that the member would have in an object. -/
def Addresses (data : Json) (place : Location) : Cause → Prop
  | .missing key => ∃ (outer : Location) (name : CodePoints) (members : List (CodePoints × Json)),
      key = .string name ∧ place = outer ++ [.member name] ∧
        outer.find? data = some (.object members) ∧ Json.member? name members = none
  | _ => ∃ value, place.find? data = some value

private theorem Violation.addresses {violation : Violation} {data value : Json}
    (found : violation.location.find? data = some value)
    (applies : violation.cause.Applies value) :
    Addresses data violation.place violation.cause := by
  rw [place]
  cases cause_eq : violation.cause with
  | missing key =>
      rw [cause_eq] at applies
      obtain ⟨name, members, rfl, rfl, absent⟩ := applies
      exact ⟨violation.location, name, members, rfl, rfl, found, absent⟩
  | undeclared name =>
      rw [cause_eq] at applies
      obtain ⟨members, inner, rfl, present⟩ := applies
      refine ⟨inner, ?_⟩
      simp [Location.find?_append, found, Location.find?, present]
  | _ => exact ⟨value, found⟩

/-! ## Violations in the data -/

/-- The keys that a node requires are strings. -/
def RequiresText (keywords : List (CodePoints × Json)) : Prop :=
  ∀ keys, requiredKeys keywords = .ok keys → ∀ key ∈ keys, ∃ name, key = .string name

/-- A violation is one by a value that lies in some data, which stand at a location. -/
def Violation.LiesIn (location : Location) (data : Json) (violation : Violation) : Prop :=
  ∃ (inner : Location) (value : Json), violation.location = location ++ inner ∧
    inner.find? data = some value ∧ violation.cause.Applies value

section LiesIn

variable {location : Location} {data : Json} {violation : Violation}

private theorem Violation.liesIn_self (here : violation.location = location)
    (applies : violation.cause.Applies data) : violation.LiesIn location data :=
  ⟨[], data, by rw [here, List.append_nil], rfl, applies⟩

/-- A violation by what one step from a value leads to is a violation in the value. -/
theorem Violation.LiesIn.of_step {step : Step} {value : Json}
    (inside : violation.LiesIn (location ++ [step]) value)
    (leads : Location.find? [step] data = some value) : violation.LiesIn location data := by
  obtain ⟨inner, innermost, location_eq, found, applies⟩ := inside
  refine ⟨step :: inner, innermost, ?_, ?_, applies⟩
  · rw [location_eq, List.append_assoc, List.singleton_append]
  · rw [← List.singleton_append, Location.find?_append, leads, Option.bind_some, found]

/-- What arises from a schema at a value is a violation in the value. -/
theorem Arises.liesIn {root schema : Json} {nodes : Json → Prop}
    (arises : Arises root location schema data violation) (closed : Closed root nodes)
    (texts : ∀ keywords, nodes (.object keywords) → RequiresText keywords) (node : nodes schema) :
    violation.LiesIn location data := by
  induction arises with
  | reference given resolved _ induction =>
      exact induction (closed.reference _ _ _ _ node given resolved)
  | missing listed member absent =>
      obtain ⟨name, rfl⟩ := texts _ node _ listed _ member
      exact Violation.liesIn_self rfl ⟨name, _, rfl, rfl, absent name rfl⟩
  | member declared_eq declares given _ induction =>
      have inside := induction (closed.members _ _ node declared_eq _ declares)
      exact inside.of_step (by simp [Location.find?, given])
  | @undeclared _ _ members _ entry _ member =>
      have present : (Json.member? entry.1 members).isSome = true :=
        List.lookup_isSome_iff.mpr ⟨entry, member, by simp⟩
      obtain ⟨value, value_eq⟩ := Option.isSome_iff_exists.mp present
      exact Violation.liesIn_self rfl ⟨members, value, rfl, value_eq⟩
  | item found given _ induction =>
      have inside := induction (closed.items _ _ node found)
      exact inside.of_step (by simp [Location.find?, given])
  | _ => exact Violation.liesIn_self rfl trivial

end LiesIn

/-! ## Paths of the outermost value -/

private theorem bind_congr_of_eq_ok {ε α β : Type} {first : Except ε α}
    {next other : α → Except ε β}
    (same : ∀ value, first = .ok value → next value = other value) :
    (first >>= next) = (first >>= other) := by
  cases first with
  | error fault => rfl
  | ok value => exact same value rfl

theorem gather_congr {α : Type} {violationsOf others : α → Except Fault (List Violation)}
    {elements : List α} (same : ∀ element ∈ elements, violationsOf element = others element) :
    gather violationsOf elements = gather others elements := by
  induction elements with
  | nil => rfl
  | cons element elements induction =>
      obtain ⟨here, later⟩ := List.forall_mem_cons.mp same
      rw [gather, gather, here, induction later]

private theorem requiredViolations_eq_of_texts {location : Location}
    {members : List (CodePoints × Json)}
    {keys : List Json} (texts : ∀ key ∈ keys, ∃ name, key = .string name) (base other : Text) :
    requiredViolations base location members keys =
      requiredViolations other location members keys := by
  rw [requiredViolations_eq_gather, requiredViolations_eq_gather]
  refine gather_congr fun key member => ?_
  obtain ⟨name, rfl⟩ := texts key member
  rfl

section Path

variable {root : Json} {base other : Text} {nodes : Json → Prop} {location : Location}
  {followed : List CodePoints} {keywords : List (CodePoints × Json)} {data : Json}

/-- Two paths of the outermost value lead to the same outcome at a node. -/
def AgreeAt (root : Json) (base other : Text) (nodes : Json → Prop) (location : Location)
    (followed : List CodePoints) (schema data : Json) : Prop :=
  nodes schema →
    check ⟨root, base⟩ location followed schema data =
      check ⟨root, other⟩ location followed schema data

theorem checkAlternatives_congr {context replaced : Context} {alternatives : Option Json}
    (same : ∀ subschemas, alternatives = some (.array subschemas) → ∀ subschema ∈ subschemas,
      check context location followed subschema data =
        check replaced location followed subschema data) :
    checkAlternatives context location followed alternatives data =
      checkAlternatives replaced location followed alternatives data := by
  rw [checkAlternatives.eq_def, checkAlternatives.eq_def]
  split
  · rfl
  next subschemas =>
    have each := same subschemas rfl
    clear same
    induction subschemas with
    | nil => rw [anyAccepts, anyAccepts]
    | cons subschema others induction =>
        obtain ⟨here, later⟩ := List.forall_mem_cons.mp each
        rw [anyAccepts, anyAccepts, here, induction later]
  · rfl

private theorem agree_follow {reference : Json} (closed : Closed root nodes)
    (node : nodes (.object keywords)) (given : keyword? "$ref" keywords = some reference)
    (inner : ∀ name target, target? root reference = .ok (some (name, target)) →
      name ∉ followed → AgreeAt root base other nodes location (name :: followed) target data) :
    follow ⟨root, base⟩ location followed reference data =
      follow ⟨root, other⟩ location followed reference data := by
  rw [follow.eq_def, follow.eq_def]
  dsimp only
  split
  · rfl
  · rfl
  next name target resolved =>
    split
    · rfl
    next fresh =>
      exact inner name target resolved fresh
        (closed.reference keywords reference name target node given resolved)

private theorem agree_checkInside (closed : Closed root nodes)
    (texts : ∀ keywords, nodes (.object keywords) → RequiresText keywords)
    (node : nodes (.object keywords))
    (ofMembers : ∀ members name value, data = .object members →
      Json.member? name members = some value →
      ∀ location subschema, AgreeAt root base other nodes location [] subschema value)
    (ofItems : ∀ items item, data = .array items → item ∈ items →
      ∀ location subschema, AgreeAt root base other nodes location [] subschema item) :
    checkInside ⟨root, base⟩ location keywords data =
      checkInside ⟨root, other⟩ location keywords data := by
  cases data with
  | object members =>
      rw [checkInside, checkInside]
      refine bind_congr_of_eq_ok fun keys keys_eq => ?_
      rw [requiredViolations_eq_of_texts (texts keywords node keys keys_eq) base other]
      refine bind_congr fun required => bind_congr_of_eq_ok fun declared declared_eq => ?_
      have inner_eq : checkMembers ⟨root, base⟩ location members declared =
          checkMembers ⟨root, other⟩ location members declared := by
        rw [checkMembers_eq_gather, checkMembers_eq_gather]
        refine gather_congr fun entry declares => ?_
        cases found : Json.member? entry.1 members with
        | none => rw [checkMember, checkMember]
        | some value =>
            rw [checkMember, checkMember]
            exact ofMembers members entry.1 value rfl found _ entry.2
              (closed.members keywords declared node declared_eq entry declares)
      rw [inner_eq]
  | array items =>
      rw [checkInside, checkInside]
      have inner_eq : checkItems ⟨root, base⟩ location ((keyword? "items" keywords).getD .null) 0
          items = checkItems ⟨root, other⟩ location ((keyword? "items" keywords).getD .null) 0
          items := by
        rw [checkItems_eq_gather, checkItems_eq_gather]
        refine gather_congr fun entry listed => ?_
        have item_mem : entry.1 ∈ items :=
          List.mem_of_getElem? (List.mem_zipIdx_iff_getElem?.mp listed)
        cases found : keyword? "items" keywords with
        | none => simp [check]
        | some schema =>
            exact ofItems items entry.1 rfl item_mem _ schema
              (closed.items keywords schema node found)
      rw [inner_eq]
  | _ => simp [checkInside]

/-- At every node, the path makes no difference if it makes none to the subevaluations. -/
theorem agreeAt_node {schema : Json} (closed : Closed root nodes)
    (texts : ∀ keywords, nodes (.object keywords) → RequiresText keywords)
    (descends : Descends ⟨root, base⟩ (AgreeAt root base other nodes) location followed schema
      data) : AgreeAt root base other nodes location followed schema data := by
  intro node
  cases schema with
  | object keywords =>
      have alternatives_eq := checkAlternatives_congr fun subschemas found subschema member =>
        descends.alternatives keywords subschemas rfl found subschema member
          (closed.alternatives keywords subschemas node found subschema member)
      rw [check, check, alternatives_eq]
      split
      · rfl
      · rfl
      · split
        next reference given =>
          exact agree_follow closed node given (descends.reference reference)
        · rw [agree_checkInside closed texts node descends.members descends.items]
  | _ => simp [check]

/-- Where all required keys are strings, the outcome of an evaluation does not depend on the path of
the outermost value. -/
theorem check_eq_of_texts {schema : Json} (closed : Closed root nodes)
    (texts : ∀ keywords, nodes (.object keywords) → RequiresText keywords) (node : nodes schema)
    (base other : Text) (location : Location) (followed : List CodePoints) (data : Json) :
    check ⟨root, base⟩ location followed schema data =
      check ⟨root, other⟩ location followed schema data :=
  check_induction ⟨root, base⟩ (fun _ _ _ _ => agreeAt_node closed texts) location followed schema
    data node

end Path

/-! ## Places of all violations -/

/-- A schema of the document that is evaluated, or of the one that references look into. -/
def IsSchemaOf (root : Option Json) (schema node : Json) : Prop :=
  Subschema schema node ∨ Subschema (rootFor root schema) node

private theorem closed_isSchemaOf (root : Option Json) (schema : Json) :
    Closed (rootFor root schema) (IsSchemaOf root schema) where
  alternatives _ _ node found _ member :=
    node.imp (fun inside => .alternative inside found member)
      fun inside => .alternative inside found member
  reference _ _ _ _ _ _ resolved := .inr (subschema_of_target? resolved)
  members _ _ node declared_eq _ member :=
    have found := keyword?_properties_of_mem declared_eq member
    node.imp (fun inside => .property inside found member)
      fun inside => .property inside found member
  items _ _ node found :=
    node.imp (fun inside => .items inside found) fun inside => .items inside found

section Violations

variable {root : Option Json} {schema data : Json}

/-- Every violation is one by a value in the data. -/
theorem exists_applies_of_mem_violations {base : Text} {found : List Violation}
    {violation : Violation}
    (texts : ∀ keywords, IsSchemaOf root schema (.object keywords) → RequiresText keywords)
    (returned : violations root base schema data = .ok found) (member : violation ∈ found) :
    ∃ value, violation.location.find? data = some value ∧ violation.cause.Applies value := by
  rw [violations_eq_check] at returned
  obtain ⟨inner, value, location_eq, found, applies⟩ :=
    (arises_of_mem_check returned member).liesIn (closed_isSchemaOf root schema) texts
      (.inl .whole)
  exact ⟨value, location_eq ▸ found, applies⟩

/-- The path of the outermost value makes no difference to the outcome. -/
theorem violations_eq_of_texts
    (texts : ∀ keywords, IsSchemaOf root schema (.object keywords) → RequiresText keywords)
    (base other : Text) : violations root base schema data = violations root other schema data := by
  rw [violations_eq_check, violations_eq_check]
  exact check_eq_of_texts (closed_isSchemaOf root schema) texts (.inl .whole) base other [] [] data

/-- If all required keys are strings and all members have names, then an evaluation leads to the
same faults or to the same violations at the same places under every path of the outermost value,
which is only written in front.  Each place is that of a value in the data, or of a member that an
object there lacks. -/
theorem violations_are_placed
    (texts : ∀ keywords, IsSchemaOf root schema (.object keywords) → RequiresText keywords)
    (names : HasNames data) :
    ∃ outcome : Except Fault (List (Location × Cause)),
      (∀ base, (violations root base schema data).map
          (·.map fun violation => (violation.path base, violation.message)) =
        outcome.map (·.map fun placed =>
          (String.ofList (placed.1.written base), placed.2.message))) ∧
      ∀ found, outcome = .ok found → ∀ placed ∈ found, Addresses data placed.1 placed.2 := by
  refine ⟨(violations root [] schema data).map
    (·.map fun violation => (violation.place, violation.cause)), fun base => ?_, ?_⟩
  · rw [violations_eq_of_texts texts base []]
    cases evaluated : violations root [] schema data with
    | error fault => rfl
    | ok found =>
        simp only [Except.map, List.map_map, Except.ok.injEq]
        refine List.map_congr_left fun violation member => ?_
        obtain ⟨value, location_eq, applies⟩ :=
          exists_applies_of_mem_violations texts evaluated member
        exact congrArg (·, violation.message)
          (violation.path_eq_written base (names.isNamed location_eq) applies)
  · intro found outcome_eq placed member
    cases evaluated : violations root [] schema data with
    | error fault => simp [evaluated, Except.map] at outcome_eq
    | ok violations =>
        rw [evaluated, Except.map, Except.ok.injEq] at outcome_eq
        subst outcome_eq
        obtain ⟨violation, reported, rfl⟩ := List.mem_map.mp member
        obtain ⟨value, location_eq, applies⟩ :=
          exists_applies_of_mem_violations texts evaluated reported
        exact violation.addresses location_eq applies

end Violations

/-- A schema for tables, whose rows have a key and nothing else. -/
def tables : Json :=
  .object [
    (CodePoints.ofString "properties", .object [
      (CodePoints.ofString "rows", .object [
        (CodePoints.ofString "items", .object [
          (CodePoints.ofString "required", .array [.words "key"]),
          (CodePoints.ofString "properties", .object [
            (CodePoints.ofString "key", .object [
              (CodePoints.ofString "type", .words "string")])]),
          (CodePoints.ofString "additionalProperties", .boolean false)])])])]

private theorem requiresText_of_isSchemaOf_tables (keywords : List (CodePoints × Json))
    (node : IsSchemaOf none tables (.object keywords)) : RequiresText keywords := by
  have every : tables.everyObject (fun keywords => decide (Usable keywords)) = true := by
    simp [tables, Json.everyObject, Json.everyInMembers, Json.everyInItems, usable_iff, isTextList,
      isText, isRecord, Json.words]
  have subschema : Subschema tables (.object keywords) := node.elim id id
  exact fun keys listed key member => (subschema.usable every).exists_text_of_mem listed member

/-- The violations of a table with a row that has no key, but a member that is not declared, are
placed. -/
theorem violations_of_keylessRow_are_placed :
    let row : Json := .object [(CodePoints.ofString "name", .null)]
    let table : Json := .object [(CodePoints.ofString "rows", .array [row])]
    (∀ keywords, IsSchemaOf none tables (.object keywords) → RequiresText keywords) ∧
      HasNames table ∧
      ∃ outcome : Except Fault (List (Location × Cause)),
        (∀ base, (violations none base tables table).map
            (·.map fun violation => (violation.path base, violation.message)) =
          outcome.map (·.map fun placed =>
            (String.ofList (placed.1.written base), placed.2.message))) ∧
        ∀ found, outcome = .ok found → ∀ placed ∈ found, Addresses table placed.1 placed.2 := by
  intro row table
  have names : HasNames table := by
    simp [table, row, HasNames, Json.everyObject, Json.everyInMembers, Json.everyInItems,
      CodePoints.ofString, CodePoints.ofText]
  exact ⟨requiresText_of_isSchemaOf_tables, names,
    violations_are_placed requiresText_of_isSchemaOf_tables names⟩

end Schema
end DiscoveryFiles
