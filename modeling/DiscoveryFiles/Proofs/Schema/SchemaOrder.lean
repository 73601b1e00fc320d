import DiscoveryFiles.Proofs.Schema.Rearrangement

/-!
# The order inside a schema

Alternatives are tried one after the other up to the first that accepts the value, and the loops
over required keys and declared members collect violations in the order of the schema.  Where every
evaluation comes to an end, rearranging the document leads to the same violations in another order.
-/

namespace DiscoveryFiles
namespace Schema

/-! ## Loops in another order -/

section Order

variable {context : Context} {location : Location} {followed : List CodePoints} {data : Json}

/-- A loop that no element stops collects what each of them leads to. -/
theorem gather_eq_flatMap {α : Type} {violationsOf : α → Except Fault (List Violation)}
    {found : α → List Violation} {elements : List α}
    (each : ∀ element ∈ elements, violationsOf element = .ok (found element)) :
    gather violationsOf elements = .ok (elements.flatMap found) := by
  induction elements with
  | nil => rfl
  | cons element elements induction =>
      obtain ⟨here, later⟩ := List.forall_mem_cons.mp each
      rw [gather, here, induction later]
      rfl

/-- If no element of one list stops an evaluation, then neither does one of a list that agrees. -/
theorem returns_of_agree {α β γ δ : Type} {R : γ → δ → Prop} {first : α → Except Fault γ}
    {second : β → Except Fault δ} {elements : List α} {others : List β}
    (each : List.Forall₂ (fun x y => Agree R (first x) (second y)) elements others)
    (returns : ∀ element ∈ elements, ∃ found, first element = .ok found) :
    ∀ element ∈ others, ∃ found, second element = .ok found := by
  intro element member
  obtain ⟨_, inElements, agree⟩ := Json.exists_of_mem_right each member
  obtain ⟨_, returned⟩ := returns _ inElements
  obtain ⟨found, found_eq, -⟩ := agree.exists_related returned
  exact ⟨found, found_eq⟩

/-- Two loops that no element stops lead to alike violations if their elements do, in some order. -/
theorem agree_gather_of_perm {α β γ : Type} {view : Violation → γ}
    {first : α → Except Fault (List Violation)} {second : β → Except Fault (List Violation)}
    {elements : List α} {between others : List β}
    (each : List.Forall₂ (fun x y => Agree (Alike view) (first x) (second y)) elements between)
    (perm : between.Perm others)
    (returns : ∀ element ∈ elements, ∃ found, first element = .ok found) :
    Agree (Alike view) (gather first elements) (gather second others) := by
  have collected := agree_gather each
  -- With a fault, the order would decide which one it is; without, it is the order of a list.
  choose! found found_eq using returns_of_agree each returns
  rw [gather_eq_flatMap found_eq] at collected
  rw [gather_eq_flatMap fun element member => found_eq element (perm.mem_iff.mpr member)]
  generalize gather first elements = outcome at collected ⊢
  cases collected with
  | returned alike =>
      exact .returned (List.Perm.trans alike ((perm.flatMap_right found).map view))

/-- Alternatives none of which stops the evaluation accept a value if one of them does. -/
theorem anyAccepts_eq_any {found : Json → List Violation} {subschemas : List Json}
    (each : ∀ subschema ∈ subschemas,
      check context location followed subschema data = .ok (found subschema)) :
    anyAccepts context location followed subschemas data =
      .ok (subschemas.any fun subschema => (found subschema).isEmpty) := by
  induction subschemas with
  | nil => rw [anyAccepts, List.any_nil]
  | cons subschema others induction =>
      obtain ⟨here, later⟩ := List.forall_mem_cons.mp each
      rw [anyAccepts, here, List.any_cons]
      cases found subschema with
      | nil => rfl
      | cons => exact induction later

private theorem anyAccepts_eq_of_perm {subschemas others : List Json}
    (perm : subschemas.Perm others)
    (returns : ∀ subschema ∈ subschemas,
      ∃ found, check context location followed subschema data = .ok found) :
    anyAccepts context location followed subschemas data =
      anyAccepts context location followed others data := by
  choose! found found_eq using returns
  rw [anyAccepts_eq_any found_eq,
    anyAccepts_eq_any fun subschema member => found_eq subschema (perm.mem_iff.mpr member),
    perm.any_eq]

end Order

/-! ## Evaluations under a rearranged document -/

section Evaluation

variable {root other : Json} {base : Text} {location : Location} {followed : List CodePoints}
  {keywords others : List (CodePoints × Json)} {schema data : Json}

/-- Evaluating a schema of a well-formed document without endless chains ends with violations. -/
theorem exists_check (wellFormed : IsWellFormed root) (chains : ChainsEnd root)
    (subschema : Subschema root schema) (behind : ∀ name ∈ followed, LiesBehind root schema name)
    (base : Text) (location : Location) (data : Json) :
    ∃ found, check ⟨root, base⟩ location followed schema data = .ok found := by
  have closed := closed_subschema root
  have chainsFrom (node : Json) (inside : Subschema root node) : ChainsEndFrom root node :=
    chains.chainsEndFrom inside
  cases evaluated : check ⟨root, base⟩ location followed schema data with
  | ok found => exact ⟨found, rfl⟩
  | error fault =>
      rcases isExplained_of_check_eq_error closed subschema evaluated with
        rfl | ⟨keywords, node, stops⟩
      · exact absurd evaluated (finishes closed chainsFrom location followed schema data subschema
          behind)
      · exact absurd stops ((wellFormed.usable keywords node).not_stops
          (wellFormed.definitions_ne_error node))

/-- A schema of one document and one that it is rearranged to, under the other document, lead to the
same violations in some order. -/
def KeepsViolations (root other : Json) (base : Text) (location : Location)
    (followed : List CodePoints) (schema data : Json) : Prop :=
  Subschema root schema → (∀ name ∈ followed, LiesBehind root schema name) →
    ∀ rearranged, Rearranged schema rearranged →
      Agree (Alike id) (check ⟨root, base⟩ location followed schema data)
        (check ⟨other, base⟩ location followed rearranged data)

private theorem checkAlternatives_of_rearranged (wellFormed : IsWellFormed root)
    (chains : ChainsEnd root)
    (each : List.Forall₂ RearrangedKeyword keywords others)
    (node : Subschema root (.object keywords))
    (behind : ∀ name ∈ followed, LiesBehind root (.object keywords) name)
    (inner : ∀ subschemas, keyword? "oneOf" keywords = some (.array subschemas) →
      ∀ subschema ∈ subschemas, KeepsViolations root other base location followed subschema data) :
    checkAlternatives ⟨root, base⟩ location followed (keyword? "oneOf" keywords) data =
      checkAlternatives ⟨other, base⟩ location followed (keyword? "oneOf" others) data := by
  rcases alternatives_rearranged each with
    ⟨subschemas, between, further, found, found', eachAlternative, perm⟩ | ⟨same, notArray⟩
  · have behindEach (subschema : Json) (member : subschema ∈ subschemas) (name : CodePoints)
        (inFollowed : name ∈ followed) : LiesBehind root subschema name :=
      (behind name inFollowed).next (.alternative found member)
    have agree := Json.forall₂_imp_of_mem eachAlternative
      fun subschema member further rearranged =>
        inner subschemas found subschema member (.alternative node found member)
          (behindEach subschema member) further rearranged
    have returns := returns_of_agree agree fun subschema member =>
      exists_check wellFormed chains (.alternative node found member) (behindEach subschema member)
        base location data
    rw [found, found', checkAlternatives, checkAlternatives, anyAccepts_eq_of_agree agree,
      anyAccepts_eq_of_perm perm returns]
  · rw [← same]
    exact checkAlternatives_congr fun subschemas given => absurd given (notArray subschemas)

private theorem agree_checkMembers_of_rearranged (wellFormed : IsWellFormed root)
    (chains : ChainsEnd root) (node : Subschema root (.object keywords))
    {declared further members : List (CodePoints × Json)}
    (declared_eq : properties keywords = .ok declared)
    (rearranged : RearrangedMembers declared further)
    (inner : ∀ name value, Json.member? name members = some value →
      ∀ location subschema, KeepsViolations root other base location [] subschema value) :
    Agree (Alike id) (checkMembers ⟨root, base⟩ location members declared)
      (checkMembers ⟨other, base⟩ location members further) := by
  obtain ⟨between, each, perm⟩ := rearranged
  have entryNode (entry : CodePoints × Json) (declares : entry ∈ declared) :
      Subschema root entry.2 :=
    (closed_subschema root).members keywords declared node declared_eq entry declares
  rw [checkMembers_eq_gather, checkMembers_eq_gather]
  refine agree_gather_of_perm (Json.forall₂_imp_of_mem each ?_) perm ?_
  · intro entry declares further rearranged
    cases rearranged with
    | intro name rearranged =>
        cases found : Json.member? name members with
        | none =>
            rw [checkMember, checkMember]
            exact .returned (.refl [])
        | some value =>
            rw [checkMember, checkMember]
            exact inner name value found _ _ (entryNode _ declares) (by simp) _ rearranged
  · intro entry declares
    cases Json.member? entry.1 members with
    | none => exact ⟨[], by rw [checkMember]⟩
    | some value =>
        rw [checkMember]
        exact exists_check wellFormed chains (entryNode entry declares) (by simp) base _ value

private theorem agree_checkItems_of_rearranged
    (each : List.Forall₂ RearrangedKeyword keywords others)
    (node : Subschema root (.object keywords)) {items : List Json}
    (inner : ∀ item ∈ items,
      ∀ location subschema, KeepsViolations root other base location [] subschema item) :
    Agree (Alike id)
      (checkItems ⟨root, base⟩ location ((keyword? "items" keywords).getD .null) 0 items)
      (checkItems ⟨other, base⟩ location ((keyword? "items" others).getD .null) 0 items) := by
  have rearranged := items_rearranged each
  rw [checkItems_eq_gather, checkItems_eq_gather]
  refine agree_gather (List.forall₂_same.mpr fun entry listed => ?_)
  have item_mem : entry.1 ∈ items := List.mem_of_getElem? (List.mem_zipIdx_iff_getElem?.mp listed)
  cases found : keyword? "items" keywords with
  | none =>
      rw [found, Option.getD_none] at rearranged
      rw [Option.getD_none, rearranged.eq_of_ne_object (by simp), check, check]
      · exact .returned (.refl [])
      all_goals simp
  | some schema =>
      rw [found] at rearranged
      exact inner entry.1 item_mem _ schema (.items node found) (by simp) _ rearranged

private theorem agree_checkInside_of_rearranged (wellFormed : IsWellFormed root)
    (chains : ChainsEnd root)
    (each : List.Forall₂ RearrangedKeyword keywords others)
    (node : Subschema root (.object keywords))
    (ofMembers : ∀ members name value, data = .object members →
      Json.member? name members = some value →
      ∀ location subschema, KeepsViolations root other base location [] subschema value)
    (ofItems : ∀ items item, data = .array items → item ∈ items →
      ∀ location subschema, KeepsViolations root other base location [] subschema item) :
    Agree (Alike id) (checkInside ⟨root, base⟩ location keywords data)
      (checkInside ⟨other, base⟩ location others data) := by
  cases data with
  | object members =>
      rw [checkInside, checkInside]
      refine (agree_requiredKeys each).bind fun keys further keys_eq perm => ?_
      have texts (key : Json) (member : key ∈ keys) : ∃ name, key = .string name :=
        (wellFormed.usable keywords node).exists_text_of_mem keys_eq member
      have required : Agree (Alike id) (requiredViolations base location members keys)
          (requiredViolations base location members further) := by
        rw [requiredViolations_eq_gather, requiredViolations_eq_gather]
        exact agree_gather_of_perm (List.forall₂_same.mpr fun _ _ => .refl .refl _) perm
          fun key member => exists_requiredViolation (texts key member) base location members
      refine required.bind fun _ _ _ missing => ?_
      refine (agree_properties each).bind fun declared further declared_eq rearranged => ?_
      rw [undeclaredViolations_of_rearranged each rearranged members]
      refine (agree_checkMembers_of_rearranged wellFormed chains node declared_eq rearranged
        fun name value found => ofMembers members name value rfl found).bind fun _ _ _ inner => ?_
      exact .returned ((missing.append inner).append (.refl _))
  | array items =>
      rw [checkInside, checkInside, keyword?_eq_of_rearranged each (by decide)]
      refine .bind_same fun length => ?_
      refine (agree_checkItems_of_rearranged each node fun item member =>
        ofItems items item rfl member).bind fun _ _ _ inner => ?_
      exact .returned (Alike.append (.refl length) inner)
  | _ =>
      rw [checkInside, checkInside]
      · exact .returned (.refl [])
      all_goals simp

private theorem agree_follow_of_rearranged (rearranged : Rearranged root other) {reference : Json}
    (given : keyword? "$ref" keywords = some reference)
    (behind : ∀ name ∈ followed, LiesBehind root (.object keywords) name)
    (inner : ∀ name target, target? root reference = .ok (some (name, target)) →
      name ∉ followed →
      KeepsViolations root other base location (name :: followed) target data) :
    Agree (Alike id) (follow ⟨root, base⟩ location followed reference data)
      (follow ⟨other, base⟩ location followed reference data) := by
  have targets := agree_target? rearranged reference
  rw [follow_eq, follow_eq]
  dsimp only
  generalize target? other reference = second at targets ⊢
  cases first_eq : target? root reference with
  | error fault =>
      rw [first_eq] at targets
      cases targets
      exact .stopped fault
  | ok target =>
      rw [first_eq] at targets
      cases targets with
      | returned related =>
          cases related with
          | none => exact .returned (.refl _)
          | some related =>
              cases related with
              | @intro name target _ rearranged =>
                  dsimp only
                  split
                  · exact .stopped .endless
                  next fresh =>
                    have leads : LeadsBeside root (.object keywords) target :=
                      .reference given (exists_target?_iff.mp ⟨name, first_eq⟩)
                    exact inner name target first_eq fresh (subschema_of_target? first_eq)
                      (LiesBehind.of_target? behind first_eq leads) _ rearranged

/-- At every node, the violations are kept if they are by the subevaluations. -/
theorem keepsViolations_node (wellFormed : IsWellFormed root) (chains : ChainsEnd root)
    (rearranged : Rearranged root other)
    (descends : Descends ⟨root, base⟩ (KeepsViolations root other base) location followed schema
      data) : KeepsViolations root other base location followed schema data := by
  intro node behind further rearrangedNode
  cases schema with
  | object keywords =>
      obtain ⟨others, rfl, each⟩ := rearrangedNode.exists_each
      refine agree_check_object ?_ (keyword?_eq_of_rearranged each (by decide)) ?_
        (typeViolation?_of_rearranged each) ?_
        (agree_checkInside_of_rearranged wellFormed chains each node descends.members
          descends.items)
      · exact checkAlternatives_of_rearranged wellFormed chains each node behind
          fun subschemas found => descends.alternatives keywords subschemas rfl found
      · intro reference given
        exact agree_follow_of_rearranged rearranged given behind
          (descends.reference reference)
      · rw [ownViolations_of_rearranged each]
        exact .refl .refl _
  | _ =>
      rw [rearrangedNode.eq_of_ne_object (by simp), check, check]
      · exact .returned (.refl [])
      all_goals simp

private theorem keepsViolations (wellFormed : IsWellFormed root) (chains : ChainsEnd root)
    (rearranged : Rearranged root other) (base : Text) (location : Location)
    (followed : List CodePoints) (schema data : Json) :
    KeepsViolations root other base location followed schema data :=
  check_induction ⟨root, base⟩
    (fun _ _ _ _ => keepsViolations_node wellFormed chains rearranged) location followed schema data

/-- If the alternatives, the required keys and the declared members in a well-formed document
without endless chains are put into another order, then every value has the same violations in some
order. -/
theorem violations_of_rearranged (wellFormed : IsWellFormed root) (chains : ChainsEnd root)
    (rearranged : Rearranged root other) (base : Text) (data : Json) :
    ∃ found others, violations none base root data = .ok found ∧
      violations none base other data = .ok others ∧ others.Perm found := by
  obtain ⟨found, found_eq⟩ :=
    exists_check wellFormed chains .whole (List.forall_mem_nil _) base [] data
  have agree := keepsViolations wellFormed chains rearranged base [] [] root data .whole (by simp)
    other rearranged
  obtain ⟨others, others_eq, alike⟩ := agree.exists_related found_eq
  refine ⟨found, others, ?_, ?_, ?_⟩
  · rw [violations_eq_check]
    exact found_eq
  · rw [violations_eq_check]
    exact others_eq
  · simpa [Alike] using List.Perm.symm alike

end Evaluation

/-- Whether a schema leads to no other one at the same value. -/
def isFlat : Json → Bool
  | .object keywords => (keyword? "oneOf" keywords).isNone && (keyword? "$ref" keywords).isNone
  | _ => true

/-- Whether all alternatives of a node are flat. -/
def hasFlatAlternatives (keywords : List (CodePoints × Json)) : Bool :=
  match keyword? "oneOf" keywords with
  | some (.array subschemas) => subschemas.all isFlat
  | _ => true

/-- Where alternatives and definitions are flat, no chain has more than one step. -/
theorem chainsEnd_of_flat {root : Json} (alternatives : root.everyObject hasFlatAlternatives = true)
    (defined : ∀ known, definitions root = .ok known → ∀ entry ∈ known, isFlat entry.2 = true) :
    ChainsEnd root := by
  refine chainsEnd_of_rank (fun node => if isFlat node then 0 else 1) ?_
  intro node next inside leads
  have steps : isFlat node = false ∧ isFlat next = true := by
    cases leads with
    | alternative found member =>
        have flat := inside.everyObject alternatives
        rw [Json.everyObject, Bool.and_eq_true, hasFlatAlternatives, found] at flat
        exact ⟨by simp [isFlat, found], List.all_eq_true.mp flat.1 next member⟩
    | reference given resolved =>
        obtain ⟨name, rootKeywords, known, -, root_eq, known_eq, found, -⟩ := resolved
        have known_ok := definitions_eq_ok_iff.mpr ⟨rootKeywords, root_eq, .inl known_eq⟩
        exact ⟨by simp [isFlat, given], defined known known_ok _ (Json.mem_of_member? found)⟩
  simp [steps]

/-- A schema with nothing but a type. -/
def typed (type : String) : Json :=
  .object [(CodePoints.ofString "type", .words type)]

/-- A schema for parcels, in which two things are given in some order. -/
def parcel (keys : List Json) (declared : List (CodePoints × Json)) : Json :=
  .object [
    (CodePoints.ofString "required", .array keys),
    (CodePoints.ofString "properties", .object declared)]

/-- A schema for lists of parcels, which may be absent. -/
def parcels (kinds : List Json) (definition : Json) : Json :=
  .object [
    (CodePoints.ofString "oneOf", .array kinds),
    (CodePoints.ofString "items", .object [
      (CodePoints.ofString "$ref", .words "#/$defs/parcel")]),
    (CodePoints.ofString "$defs", .object [(CodePoints.ofString "parcel", definition)])]

/-- Lists of parcels, with the label first everywhere. -/
def labelFirst : Json :=
  parcels [typed "array", typed "null"] (parcel [.words "label", .words "weight"]
    [(CodePoints.ofString "label", typed "string"), (CodePoints.ofString "weight", typed "number")])

/-- Lists of parcels, with the weight first everywhere. -/
def weightFirst : Json :=
  parcels [typed "null", typed "array"] (parcel [.words "weight", .words "label"]
    [(CodePoints.ofString "weight", typed "number"), (CodePoints.ofString "label", typed "string")])

private theorem isWellFormed_labelFirst : IsWellFormed labelFirst := by
  constructor
  case usable =>
    intro keywords subschema
    have every : labelFirst.everyObject (fun keywords => decide (Usable keywords)) = true := by
      simp [labelFirst, parcels, parcel, typed, Json.everyObject, Json.everyInMembers,
        Json.everyInItems, usable_iff, isList, isTextList, isText, isRecord, Json.words]
    exact subschema.usable every
  case defined =>
    rintro keywords ⟨⟩ value found
    simp at found
    exact ⟨_, found.symm⟩

private theorem chainsEnd_labelFirst : ChainsEnd labelFirst := by
  refine chainsEnd_of_flat ?_ fun known known_eq => ?_
  · simp [labelFirst, parcels, parcel, typed, Json.everyObject, Json.everyInMembers,
      Json.everyInItems, hasFlatAlternatives, isFlat, Json.words]
  · simp [labelFirst, parcels, definitions] at known_eq
    subst known_eq
    simp [parcel, isFlat]

private theorem rearranged_labelFirst : Rearranged labelFirst weightFirst := by
  have kinds : List.Forall₂ Rearranged [typed "array", typed "null"]
      [typed "array", typed "null"] := .cons (.unchanged _) (.cons (.unchanged _) .nil)
  have alternatives := RearrangedKeyword.alternatives rfl kinds (.swap _ _ [])
  refine .node (.cons alternatives (.cons (.unchanged _) (.cons ?_ .nil)))
  refine .definitions rfl (.cons (.intro _ (.node (.cons ?_ (.cons ?_ .nil)))) .nil)
  · exact .required rfl (.swap _ _ [])
  · exact .properties rfl (rearrangedMembers_same _) (.swap _ _ [])

/-- A parcel with a wrong label and no weight has the same violations whatever comes first. -/
theorem violations_of_weightFirst :
    let data : Json := .array [.object [(CodePoints.ofString "label", .integer 1)]]
    IsWellFormed labelFirst ∧ ChainsEnd labelFirst ∧ Rearranged labelFirst weightFirst ∧
      ∃ found others, violations none [] labelFirst data = .ok found ∧
        violations none [] weightFirst data = .ok others ∧ others.Perm found :=
  ⟨isWellFormed_labelFirst, chainsEnd_labelFirst, rearranged_labelFirst,
    violations_of_rearranged isWellFormed_labelFirst chainsEnd_labelFirst rearranged_labelFirst []
      _⟩

end Schema
end DiscoveryFiles
