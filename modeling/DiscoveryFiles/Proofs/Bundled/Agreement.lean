import DiscoveryFiles.Proofs.Bundled.Identity
import DiscoveryFiles.Proofs.Bundled.Policy
import DiscoveryFiles.Proofs.Check.Wording
import DiscoveryFiles.Proofs.Schema.Origin

/-!
# Required members, with and without a schema

What a file of data must have is asked for twice: by a list of names, and by the bundled schema for
its kind.  The two agree on every object, name by name, so that an object passes when the schema
has nothing to say against it.
-/

namespace DiscoveryFiles
namespace Bundled

open Check Schema Service

/-! ## The bundled schemas by kind -/

/-- The keywords of the bundled schema for a kind of file. -/
def keywordsOf : DataKind → List (CodePoints × Json)
  | .policy => policyKeywords
  | .identity => identityKeywords

/-- The members that the bundled schema for a kind of file declares. -/
def membersOf : DataKind → List (CodePoints × Json)
  | .policy => policyMembers
  | .identity => identityMembers

/-- The definitions of the bundled schema for a kind of file. -/
def definitionsOf : DataKind → List (CodePoints × Json)
  | .policy => policyDefinitions
  | .identity => identityDefinitions

/-- The keys that the bundled schema for a kind of file requires. -/
def keysOf : DataKind → List String
  | .policy => policyKeys
  | .identity => identityKeys

private theorem exists_describes (kind : DataKind) :
    ∃ property, Describes kind (keywordsOf kind) property := by
  cases kind with
  | policy => exact ⟨_, describes_policy⟩
  | identity => exact ⟨_, describes_identity⟩

private theorem isRecord_keywordsOf (kind : DataKind) :
    IsRecord (keywordsOf kind) ((keysOf kind).map CodePoints.ofString) (membersOf kind) := by
  cases kind with
  | policy => exact isRecord_policy
  | identity => exact isRecord_identity

private theorem definitions_keywordsOf (kind : DataKind) :
    definitions (.object (keywordsOf kind)) = .ok (definitionsOf kind) := by
  cases kind with
  | policy => simp [keywordsOf, definitions, policyKeywords, definitionsOf]
  | identity => simp [keywordsOf, definitions, identityKeywords, definitionsOf]

/-- The schema requires the members that are required in any case. -/
theorem mem_keysOf_iff (kind : DataKind) (name : String) :
    name ∈ keysOf kind ↔ name ∈ requiredMembers kind := by
  have same_names : (keysOf kind).Perm (requiredMembers kind) := by
    cases kind <;> decide
  exact same_names.mem_iff

/-! ## Nodes inside the bundled schemas -/

/-- Whether a bound is an integer, if there is one. -/
def isIntegral : Option Json → Bool
  | none | some (.integer _) => true
  | _ => false

/-- Whether a node requires no keys, has integers for bounds, and refers to a definition if it
refers to anything. -/
def isInner (root : Json) (keywords : List (CodePoints × Json)) : Bool :=
  (keyword? "required" keywords).isNone && isIntegral (keyword? "minLength" keywords) &&
    isIntegral (keyword? "minItems" keywords) &&
    match keyword? "$ref" keywords with
    | none => true
    | some reference =>
        match target? root reference with
        | .ok (some _) => true
        | _ => false

private theorem everyObject_referenceNode {kind : DataKind} {name : String}
    (defined : ∃ schema, Json.member? (CodePoints.ofString name) (definitionsOf kind) =
      some schema ∧ schema ≠ .null) :
    (referenceNode name).everyObject (isInner (.object (keywordsOf kind))) = true := by
  obtain ⟨schema, member, given⟩ := defined
  have named : definitionName? (.words ("#/$defs/" ++ name)) = some (CodePoints.ofString name) :=
    definitionName?_eq_some_iff.mpr (by simp [Json.words, CodePoints.ofString, CodePoints.ofText])
  have resolved : target? (.object (keywordsOf kind)) (.words ("#/$defs/" ++ name)) =
      .ok (some (CodePoints.ofString name, schema)) := by
    simp [target?, named, definitions_keywordsOf, Except.map,
      definition?_eq_some_iff.mpr ⟨member, given⟩]
  have keywords_pass : isInner (.object (keywordsOf kind))
      [(CodePoints.ofString "$ref", .words ("#/$defs/" ++ name))] = true := by
    simp [isInner, isIntegral, resolved]
  rw [referenceNode, Json.everyObject, keywords_pass]
  simp [Json.everyInMembers, Json.everyObject, Json.words]

private theorem everyInMembers_policy :
    Json.everyInMembers (isInner (.object (keywordsOf .policy))) policyMembers = true ∧
      Json.everyInMembers (isInner (.object (keywordsOf .policy))) policyDefinitions = true := by
  have web : (referenceNode "httpUrl").everyObject
      (isInner (.object (keywordsOf .policy))) = true :=
    everyObject_referenceNode (by simp [definitionsOf, policyDefinitions, webNode])
  have rules : (referenceNode "policyList").everyObject
      (isInner (.object (keywordsOf .policy))) = true :=
    everyObject_referenceNode (by simp [definitionsOf, policyDefinitions, rulesNode])
  have contact : (referenceNode "contact").everyObject
      (isInner (.object (keywordsOf .policy))) = true :=
    everyObject_referenceNode (by simp [definitionsOf, policyDefinitions, contactNode])
  constructor
  · simp [policyMembers, Json.everyInMembers, Json.everyObject, isInner, isIntegral, web, rules,
      contact, textNode, patternNode, filledNode, Json.words]
  · simp [policyDefinitions, Json.everyInMembers, Json.everyInItems, Json.everyObject, isInner,
      isIntegral, web, webNode, rulesNode, listNode, objectNode, filledNode, contactNode,
      contactMembers, patternNode, Json.words]

private theorem everyInMembers_identity :
    Json.everyInMembers (isInner (.object (keywordsOf .identity))) identityMembers = true ∧
      Json.everyInMembers (isInner (.object (keywordsOf .identity))) identityDefinitions =
        true := by
  have web : (referenceNode "httpUrl").everyObject
      (isInner (.object (keywordsOf .identity))) = true :=
    everyObject_referenceNode (by simp [definitionsOf, identityDefinitions, webNode])
  constructor
  · simp [identityMembers, Json.everyInMembers, Json.everyInItems, Json.everyObject, isInner,
      isIntegral, web, textNode, patternNode, filledNode, officeNode, officeMembers, itemsNode,
      choiceNode, wholeNode, organisationTypes, Json.words]
  · simp [identityDefinitions, Json.everyInMembers, Json.everyObject, isInner, isIntegral, webNode,
      Json.words]

/-- The declared members lead to inner nodes only. -/
theorem everyInMembers_membersOf (kind : DataKind) :
    Json.everyInMembers (isInner (.object (keywordsOf kind))) (membersOf kind) = true ∧
      Json.everyInMembers (isInner (.object (keywordsOf kind))) (definitionsOf kind) = true := by
  cases kind with
  | policy => exact everyInMembers_policy
  | identity => exact everyInMembers_identity

/-- What an inner node asks for is ordinary. -/
theorem isOrdinary_of_isInner {root : Json} {keywords : List (CodePoints × Json)} {cause : Cause}
    (inner : isInner root keywords = true) (stems : cause.StemsFrom root keywords) :
    cause.IsOrdinary := by
  simp only [isInner, Bool.and_eq_true] at inner
  obtain ⟨⟨⟨noKeys, integralLength⟩, integralItems⟩, resolves⟩ := inner
  have integer_of_isIntegral {least : Json} (integral : isIntegral (some least) = true) :
      ∃ bound, least = .integer bound := by
    cases least <;> simp_all [isIntegral]
  cases cause with
  | missing key =>
      obtain ⟨listed, keys, required_eq, -, -⟩ := stems
      simp [required_eq] at noKeys
  | unresolved reference =>
      obtain ⟨refers, leads⟩ := stems
      simp [refers, leads] at resolves
  | shortString length least =>
      rw [show keyword? "minLength" keywords = some least from stems] at integralLength
      exact integer_of_isIntegral integralLength
  | fewItems length least =>
      rw [show keyword? "minItems" keywords = some least from stems] at integralItems
      exact integer_of_isIntegral integralItems
  | wrongType declared actual => exact stems.2
  | _ => trivial

/-- A declared member is reported for ordinary causes only. -/
theorem isOrdinary_of_mem_checkMembers {kind : DataKind} {location : Location}
    {members : List (CodePoints × Json)} {found : List Violation} {violation : Violation}
    (returned : checkMembers ⟨.object (keywordsOf kind), []⟩ location members (membersOf kind) =
      .ok found)
    (member : violation ∈ found) : violation.cause.IsOrdinary := by
  obtain ⟨members_pass, definitions_pass⟩ := everyInMembers_membersOf kind
  have closed : Closed (.object (keywordsOf kind)) fun schema =>
      schema.everyObject (isInner (.object (keywordsOf kind))) = true := by
    refine closed_everyObject fun known known_eq => ?_
    rw [definitions_keywordsOf, Except.ok.injEq] at known_eq
    exact known_eq ▸ definitions_pass
  rw [checkMembers_eq_gather] at returned
  obtain ⟨entry, declared, inner, inner_eq, inInner⟩ := (mem_gather_iff returned).mp member
  have entry_passes := Json.everyInMembers_iff.mp members_pass entry declared
  cases value_eq : Json.member? entry.1 members with
  | none =>
      rw [value_eq, checkMember, Except.ok.injEq] at inner_eq
      simp [← inner_eq] at inInner
  | some value =>
      rw [value_eq, checkMember] at inner_eq
      obtain ⟨keywords, passes, stems⟩ :=
        exists_stemsFrom_of_mem_check closed entry_passes inner_eq inInner
      rw [Json.everyObject, Bool.and_eq_true] at passes
      exact isOrdinary_of_isInner passes.1 stems

/-! ## Absent members -/

section Absence

variable {kind : DataKind} {members : List (CodePoints × Json)} {found : List Violation}

/-- The bundled schema reports the absent members that it requires, and then what is wrong with
the declared ones. -/
theorem exists_checkMembers
    (returned : violations (some (.object (keywordsOf kind))) [] (.object (keywordsOf kind))
      (.object members) = .ok found) :
    ∃ inner,
      checkMembers ⟨.object (keywordsOf kind), []⟩ [] members (membersOf kind) = .ok inner ∧
      found = (((keysOf kind).filter fun name =>
        (Json.member? (CodePoints.ofString name) members).isNone).map fun name =>
          ⟨[], .missing (.words name)⟩) ++ inner := by
  rw [violations_eq_check] at returned
  simp only [rootFor] at returned
  rw [check_eq_of_isRecord (isRecord_keywordsOf kind)] at returned
  obtain ⟨inner, inner_eq, returned⟩ := bind_eq_ok_iff.mp returned
  refine ⟨inner, inner_eq, ?_⟩
  rw [← pure_eq_ok_iff.mp returned, List.filter_map, List.map_map]
  rfl

/-- The bundled schema has its error for an absent member for the members that it requires. -/
theorem exists_violationIssue_eq_absenceText_iff {name : String}
    (returned : violations (some (.object (keywordsOf kind))) [] (.object (keywordsOf kind))
      (.object members) = .ok found) :
    (∃ violation ∈ found, (violationIssue violation).message = absenceText name) ↔
      name ∈ keysOf kind ∧ Json.member? (CodePoints.ofString name) members = none := by
  obtain ⟨inner, inner_eq, rfl⟩ := exists_checkMembers returned
  constructor
  · rintro ⟨violation, member, same⟩
    rcases List.mem_append.mp member with inAbsences | inInner
    · obtain ⟨other, absent, rfl⟩ := List.mem_map.mp inAbsences
      rw [message_violationIssue_missing] at same
      rw [← absenceText_injective same]
      simpa using absent
    · have ordinary := isOrdinary_of_mem_checkMembers inner_eq inInner
      exact absurd same (message_violationIssue_ne ordinary name)
  · rintro ⟨required, absent⟩
    refine ⟨⟨[], .missing (.words name)⟩, List.mem_append_left _ ?_,
      message_violationIssue_missing name⟩
    exact List.mem_map_of_mem (List.mem_filter.mpr ⟨required, by simp [absent]⟩)

end Absence

/-! ## Empty permissions -/

/-- Neither alternative for permissions takes the array without items. -/
theorem check_policyReference_empty (location : Location) :
    check policyContext location [] (referenceNode "policyList") (.array []) =
      .ok [⟨location, .noAlternative⟩] := by
  have known : keyword? "$defs" policyKeywords = some (.object policyDefinitions) := by
    simp [policyKeywords]
  have defined : Json.member? (CodePoints.ofString "policyList") policyDefinitions =
      some rulesNode := by
    simp [policyDefinitions]
  rw [check_referenceNode rfl known defined (by simp [rulesNode]) List.not_mem_nil]
  refine check_alternatives_of_refused (.cons accepts_listNode (.cons accepts_objectNode .nil))
    location ?_
  simp

/-- The bundled schema for policies reports permissions that are the array without items. -/
theorem exists_violation_of_no_permissions {members : List (CodePoints × Json)}
    {found : List Violation}
    (returned : violations (some (.object (keywordsOf .policy))) []
      (.object (keywordsOf .policy)) (.object members) = .ok found)
    (empty : Json.member? (CodePoints.ofString "permissions") members = some (.array [])) :
    ∃ violation ∈ found, violation.path [] = "permissions" := by
  obtain ⟨inner, inner_eq, rfl⟩ := exists_checkMembers returned
  rw [checkMembers_eq_gather] at inner_eq
  let place : Location := [.member (CodePoints.ofString "permissions")]
  have declared :
      (CodePoints.ofString "permissions", referenceNode "policyList") ∈ membersOf .policy := by
    simp [membersOf, policyMembers]
  have reported : (⟨place, .noAlternative⟩ : Violation) ∈ inner := by
    refine (mem_gather_iff inner_eq).mpr ⟨_, declared, _, ?_, List.mem_singleton_self _⟩
    rw [empty, checkMember]
    exact check_policyReference_empty place
  refine ⟨_, List.mem_append_right _ reported, ?_⟩
  simp [Violation.path, Location.path, place, Step.extend, memberPath, CodePoints.ofString]

/-! ## Agreement -/

section Checking

variable {tree : FileTree} {state : ServiceState} {kind : DataKind}

/-- For an object, the bundled schema and the checks without a schema report the absence of the same
members, and empty permissions are reported by the schema whenever they are reported at all.  So
the object passes exactly when the schema finds nothing. -/
theorem validateContent_agreement {file : String} {content : Text} {given : Option String}
    {members : List (CodePoints × Json)} (serves : Serves tree state kind)
    (asKind : tagFor? file given = some kind.kind.tag)
    (read : Json.parse content = .ok (.object members)) :
    ∃ document found result,
      Json.parse (schemaText kind) = .ok document ∧
      violations (some document) [] document (.object members) = .ok found ∧
      answer (validateContent tree file content given) state = .ok result ∧
      (∀ name : String,
        "Property \"" ++ name ++ "\" is REQUIRED" ∈ result.findings.errors.map Issue.message ↔
          "Schema: " ++ name ++ " — Required property \"" ++ name ++ "\" is missing" ∈
            result.findings.errors.map Issue.message) ∧
      ("Property \"permissions\" MUST NOT be empty" ∈ result.findings.errors.map Issue.message →
        ∃ violation ∈ found, violation.path [] = "permissions" ∧
          violationIssue violation ∈ result.findings.errors) ∧
      (result.valid = true ↔ found = []) := by
  obtain ⟨property, describes⟩ := exists_describes kind
  obtain ⟨found, found_eq, found_iff, answer_eq⟩ := describes.answer_structured serves read
  refine ⟨.object (keywordsOf kind), found, ⟨file, kind.kind.tag, _⟩, describes.read, found_eq,
    (answer_validateContent_data_iff asKind).mpr ⟨_, answer_eq, rfl⟩, ?required, ?permissions,
    ?verdict⟩
  case required =>
    intro name
    have lacks : (missingIssue name).message ∈
        (structuralErrors kind members).map Issue.message ↔
          ∃ violation ∈ found, (violationIssue violation).message = absenceText name := by
      rw [message_missingIssue_mem_iff, ← mem_keysOf_iff,
        exists_violationIssue_eq_absenceText_iff found_eq]
    rw [mem_messages_iff_of_head_ne, ← absenceText, mem_messages_iff_of_head_schema]
    · exact lacks
    · simp [absenceText]
    · simp
  case permissions =>
    intro empty
    rw [mem_messages_iff_of_head_ne (by simp)] at empty
    obtain ⟨rfl, noPermissions⟩ := message_emptyPermissions_mem_iff.mp empty
    obtain ⟨violation, member, path_eq⟩ :=
      exists_violation_of_no_permissions found_eq noPermissions
    exact ⟨violation, member, path_eq, List.mem_append_left _ (List.mem_map_of_mem member)⟩
  case verdict =>
    simp only [Result.valid, List.isEmpty_iff, List.append_eq_nil_iff, List.map_eq_nil_iff]
    refine and_iff_left_of_imp fun nothing => ?_
    exact describes.complete members (found_iff.mp nothing)

/-- A policy that has nothing but empty permissions lacks a name and permissions, by its schema as
well. -/
theorem validateContent_emptyPermissions :
    ∃ result, answer (validateContent bundledTree "ai.json"
        "\x7b\"permissions\": []\x7d".toList none) (.fresh ⟨['/'], []⟩) = .ok result ∧
      "Schema: name — Required property \"name\" is missing" ∈
        result.findings.errors.map Issue.message ∧
      ∃ violation : Violation, violation.path [] = "permissions" ∧
        violationIssue violation ∈ result.findings.errors := by
  have asPolicy : tagFor? "ai.json" none = some DataKind.policy.kind.tag := by
    cbv
  have read : Json.parse "\x7b\"permissions\": []\x7d".toList =
      .ok (.object [(CodePoints.ofString "permissions", .array [])]) := by
    simp only [CodePoints.ofString]
    repeat rewrite [String.toList_ofList]
    exact Json.parse_eq_of_alike (by decide +kernel)
  have serves := serves_bundledTree .policy
  obtain ⟨others, -, -, answer_eq⟩ := describes_policy.answer_structured serves read
  obtain ⟨_, found, result, -, -, answered, required, permissions, -⟩ :=
    validateContent_agreement serves asPolicy read
  obtain ⟨findings, structured_eq, rfl⟩ := (answer_validateContent_data_iff asPolicy).mp answered
  obtain rfl := Except.ok.inj (answer_eq.symm.trans structured_eq)
  have unnamed : (missingIssue "name").message ∈
      (others.map violationIssue ++
        structuralErrors .policy [(CodePoints.ofString "permissions", .array [])]).map
          Issue.message := by
    rw [List.map_append]
    exact List.mem_append_right _ (message_missingIssue_mem_iff.mpr (by simp [requiredMembers]))
  have empty : emptyPermissions.message ∈
      (others.map violationIssue ++
        structuralErrors .policy [(CodePoints.ofString "permissions", .array [])]).map
          Issue.message := by
    rw [List.map_append]
    exact List.mem_append_right _ (message_emptyPermissions_mem_iff.mpr (by simp))
  obtain ⟨violation, -, path_eq, member⟩ := permissions empty
  exact ⟨_, answered, (required "name").mp unnamed, violation, path_eq, member⟩

end Checking

end Bundled
end DiscoveryFiles
