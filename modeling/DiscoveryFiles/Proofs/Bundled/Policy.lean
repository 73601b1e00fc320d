import DiscoveryFiles.Proofs.Bundled.Node
import DiscoveryFiles.Proofs.Bundled.Verdict
import DiscoveryFiles.Proofs.Json.Identical
import DiscoveryFiles.Proofs.Service.Validation

/-!
# The bundled schema of the interaction policy

The document of the schema is read off node by node.  Together with the checks that do not depend
on a schema it decides which policies have no errors.
-/

namespace DiscoveryFiles
namespace Bundled

open Schema

/-! ## The document -/

/-- The words of the pattern for versions. -/
def versionPattern : String :=
  "^[0-9]+\\.[0-9]+(\\.[0-9]+)?$"

/-- The words of the pattern for dates. -/
def datePattern : String :=
  "^[0-9]\x7b4\x7d-[0-9]\x7b2\x7d-[0-9]\x7b2\x7d"

/-- The node for permissions and restrictions. -/
def rulesNode : Json :=
  .object [(CodePoints.ofString "oneOf", .array [listNode, objectNode])]

/-- The members that a contact declares. -/
def contactMembers : List (CodePoints × Json) :=
  [(CodePoints.ofString "email", patternNode mailPattern),
    (CodePoints.ofString "url", referenceNode "httpUrl")]

/-- The node for contacts. -/
def contactNode : Json :=
  .object [(CodePoints.ofString "type", .words "object"),
    (CodePoints.ofString "properties", .object contactMembers)]

/-- The members that the schema declares. -/
def policyMembers : List (CodePoints × Json) :=
  [(CodePoints.ofString "$schema", textNode),
    (CodePoints.ofString "version", patternNode versionPattern),
    (CodePoints.ofString "name", filledNode),
    (CodePoints.ofString "url", referenceNode "httpUrl"),
    (CodePoints.ofString "description", textNode),
    (CodePoints.ofString "permissions", referenceNode "policyList"),
    (CodePoints.ofString "restrictions", referenceNode "policyList"),
    (CodePoints.ofString "contact", referenceNode "contact"),
    (CodePoints.ofString "lastUpdated", patternNode datePattern)]

/-- The definitions of the schema. -/
def policyDefinitions : List (CodePoints × Json) :=
  [(CodePoints.ofString "httpUrl", webNode), (CodePoints.ofString "policyList", rulesNode),
    (CodePoints.ofString "contact", contactNode)]

/-- The keywords of the schema. -/
def policyKeywords : List (CodePoints × Json) :=
  [(CodePoints.ofString "$schema", .words "https://json-schema.org/draft/2020-12/schema"),
    (CodePoints.ofString "$id",
      .words "https://www.ai-visibility.org.uk/schemas/ai-json.schema.json"),
    (CodePoints.ofString "title", .words "ai.json (ADF-005)"),
    (CodePoints.ofString "description",
      .words "Machine-readable AI interaction policy for a website."),
    (CodePoints.ofString "type", .words "object"),
    (CodePoints.ofString "required",
      .array [.words "name", .words "url", .words "permissions", .words "restrictions"]),
    (CodePoints.ofString "properties", .object policyMembers),
    (CodePoints.ofString "$defs", .object policyDefinitions)]

set_option maxRecDepth 10000 in
/-- The bundled text is read as the document. -/
theorem parse_policySchema :
    Json.parse policySchema.toList = .ok (.object policyKeywords) := by
  unfold policySchema policyKeywords policyMembers policyDefinitions contactNode contactMembers
    rulesNode listNode objectNode referenceNode webNode patternNode filledNode textNode
    versionPattern datePattern mailPattern
  simp only [Json.words, CodePoints.ofString]
  -- The letters are spelled out, so that the texts are compared as lists.
  repeat rewrite [String.toList_append]
  repeat rewrite [String.toList_ofList]
  exact Json.parse_eq_of_alike (by decide +kernel)

private theorem policySchema_unbroken : '\r' ∉ policySchema.toList := by
  unfold policySchema
  repeat rewrite [String.toList_append]
  repeat rewrite [String.toList_ofList]
  decide +kernel

/-! ## What the document accepts -/

/-- The pattern for versions. -/
def version : Pattern :=
  let digits := Pattern.repeated .greedy (.one digitClass) 1 none
  .sequence (.anchor .start) (.sequence digits (.sequence (Pattern.letter '.') (.sequence digits
    (.sequence
      (.repeated .greedy (.group (some 1) (.sequence (Pattern.letter '.') digits)) 0 (some 1))
      (.anchor .lastLineEnd)))))

theorem parse_version : Pattern.parse (CodePoints.ofString versionPattern) = .ok version := by
  unfold CodePoints.ofString versionPattern
  rewrite [String.toList_ofList]
  exact parse_eq_of_same (by decide +kernel)

/-- A value can stand for permissions or restrictions: a list with filled strings in it, or an
object. -/
def IsRules (data : Json) : Prop :=
  (∃ items, data = .array items ∧ items ≠ [] ∧ ∀ item ∈ items, IsFilled item) ∨
    ∃ members, data = .object members

/-- A value can stand for a contact. -/
def IsContact (data : Json) : Prop :=
  ∃ members, data = .object members ∧ MayHave members "email" (Fits mailPattern) ∧
    MayHave members "url" IsWeb

/-- A value is a string that starts with a date. -/
def IsDated (data : Json) : Prop :=
  ∃ points, data = .string points ∧ StartsWithDate points

/-- The members of an object make an interaction policy. -/
structure IsPolicy (members : List (CodePoints × Json)) : Prop where
  /-- The name. -/
  name : Has members "name" IsFilled
  /-- The address of the site. -/
  url : Has members "url" IsWeb
  /-- What is allowed. -/
  permissions : Has members "permissions" IsRules
  /-- What is not. -/
  restrictions : Has members "restrictions" IsRules
  /-- The schema that the policy follows. -/
  schema : MayHave members "$schema" IsText
  /-- A description. -/
  description : MayHave members "description" IsText
  /-- The version. -/
  version : MayHave members "version" (Fits versionPattern)
  /-- The day of the last change. -/
  lastUpdated : MayHave members "lastUpdated" IsDated
  /-- Whom to ask. -/
  contact : MayHave members "contact" IsContact

section Acceptance

variable {followed : List CodePoints}

/-- The context of an evaluation of the document. -/
def policyContext : Context :=
  ⟨.object policyKeywords, []⟩

private theorem accepts_rulesNode : Accepts policyContext followed rulesNode IsRules := by
  refine (accepts_alternatives (.cons accepts_listNode (.cons accepts_objectNode .nil))).congr
    fun data => ?_
  simp [IsRules]

private theorem accepts_policyReference {name : String} {schema : Json} {property : Json → Prop}
    (defined : Json.member? (CodePoints.ofString name) policyDefinitions = some schema)
    (given : schema ≠ .null)
    (accepts : Accepts policyContext [CodePoints.ofString name] schema property) :
    Accepts policyContext [] (referenceNode name) property :=
  accepts_referenceNode rfl (by simp [policyKeywords]) defined given List.not_mem_nil accepts

private theorem accepts_contactNode : Accepts policyContext followed contactNode IsContact := by
  have mails : Accepts policyContext [] (patternNode mailPattern) (Fits mailPattern) :=
    accepts_patternNode parse_mail (by decide) (by decide)
  have webs : Accepts policyContext [] (referenceNode "httpUrl") IsWeb :=
    accepts_policyReference (by simp [policyDefinitions]) (by simp [webNode]) accepts_webNode
  have members : AcceptsMembers policyContext contactMembers fun members =>
      MayHave members "email" (Fits mailPattern) ∧ MayHave members "url" IsWeb ∧ True :=
    acceptsMembers_cons mails <| acceptsMembers_cons webs acceptsMembers_nil
  exact (accepts_object (isRecord_declared contactMembers) members).congr fun data => by
    simp [IsContact]

/-- The keys that the schema requires. -/
def policyKeys : List String :=
  ["name", "url", "permissions", "restrictions"]

theorem isRecord_policy :
    IsRecord policyKeywords (policyKeys.map CodePoints.ofString) policyMembers := by
  refine ⟨?_, ?_, ?_, ?_, ?_⟩
  · constructor <;> simp [policyKeywords]
  · simp [policyKeywords]
  · simp [policyKeys, requiredKeys, policyKeywords, elements, Json.words]
  · simp [properties, policyKeywords]
  · simp [policyKeywords]

/-- The document accepts interaction policies. -/
theorem accepts_policy :
    Accepts policyContext [] (.object policyKeywords) fun data =>
      ∃ members, data = .object members ∧ IsPolicy members := by
  have texts : Accepts policyContext [] textNode IsText := accepts_textNode
  have names : Accepts policyContext [] filledNode IsFilled := accepts_filledNode
  have versions : Accepts policyContext [] (patternNode versionPattern) (Fits versionPattern) :=
    accepts_patternNode parse_version (by decide) (by decide)
  have dates : Accepts policyContext [] (patternNode datePattern) IsDated :=
    (accepts_patternNode parse_date (by decide) (by decide)).congr fun data => by
      simp only [Fits, IsDated, matches_date_iff]
  have webs : Accepts policyContext [] (referenceNode "httpUrl") IsWeb :=
    accepts_policyReference (by simp [policyDefinitions]) (by simp [webNode]) accepts_webNode
  have rules : Accepts policyContext [] (referenceNode "policyList") IsRules :=
    accepts_policyReference (by simp [policyDefinitions]) (by simp [rulesNode]) accepts_rulesNode
  have contacts : Accepts policyContext [] (referenceNode "contact") IsContact :=
    accepts_policyReference (by simp [policyDefinitions]) (by simp [contactNode])
      accepts_contactNode
  have members : AcceptsMembers policyContext policyMembers fun members =>
      MayHave members "$schema" IsText ∧ MayHave members "version" (Fits versionPattern) ∧
      MayHave members "name" IsFilled ∧ MayHave members "url" IsWeb ∧
      MayHave members "description" IsText ∧ MayHave members "permissions" IsRules ∧
      MayHave members "restrictions" IsRules ∧ MayHave members "contact" IsContact ∧
      MayHave members "lastUpdated" IsDated ∧ True :=
    acceptsMembers_cons texts <| acceptsMembers_cons versions <| acceptsMembers_cons names <|
      acceptsMembers_cons webs <| acceptsMembers_cons texts <| acceptsMembers_cons rules <|
        acceptsMembers_cons rules <| acceptsMembers_cons contacts <|
          acceptsMembers_cons dates acceptsMembers_nil
  refine (accepts_object isRecord_policy members).congr fun data =>
    exists_congr fun members => and_congr_right fun _ => ?_
  simp only [policyKeys, List.map_cons, List.map_nil, List.forall_mem_cons, List.not_mem_nil,
    and_true]
  constructor
  · rintro ⟨⟨name, url, permissions, restrictions, -⟩, schema, version, named, located,
      description, allowed, refused, contact, dated⟩
    exact ⟨.of_hasKey name named, .of_hasKey url located, .of_hasKey permissions allowed,
      .of_hasKey restrictions refused, schema, description, version, dated, contact⟩
  · intro policy
    exact ⟨⟨policy.name.hasKey, policy.url.hasKey, policy.permissions.hasKey,
      policy.restrictions.hasKey, by simp⟩, policy.schema, policy.version, policy.name.mayHave,
      policy.url.mayHave, policy.description, policy.permissions.mayHave,
      policy.restrictions.mayHave, policy.contact, policy.lastUpdated⟩

end Acceptance

/-! ## Checking a policy -/

section Checking

open Check Service

variable {tree : FileTree} {state : ServiceState}

/-- A policy that the schema accepts lacks nothing. -/
theorem structuralErrors_of_isPolicy {members : List (CodePoints × Json)}
    (policy : IsPolicy members) : structuralErrors .policy members = [] := by
  obtain ⟨name, name_eq, -⟩ := policy.name
  obtain ⟨url, url_eq, -⟩ := policy.url
  obtain ⟨permissions, permissions_eq, allowed⟩ := policy.permissions
  obtain ⟨restrictions, restrictions_eq, -⟩ := policy.restrictions
  have notEmpty : isEmptyArray (some permissions) = false := by
    rw [Bool.eq_false_iff, ne_eq, isEmptyArray_iff]
    rintro ⟨⟩
    rcases allowed with ⟨_, ⟨⟩, filled, -⟩ | ⟨_, ⟨⟩⟩
    exact filled rfl
  simp [structuralErrors, requiredMembers, name_eq, url_eq, permissions_eq, restrictions_eq,
    notEmpty]

/-- The bundled schema for policies comes down to what makes a policy. -/
theorem describes_policy : Describes .policy policyKeywords IsPolicy where
  read := parse_policySchema
  unbroken := policySchema_unbroken
  accepts := accepts_policy
  complete := fun _ => structuralErrors_of_isPolicy

private theorem answer_structured_policy {content : Text} {members : List (CodePoints × Json)}
    (serves : Serves tree state .policy) (read : Json.parse content = .ok (.object members)) :
    ∃ found, (found = [] ↔ IsPolicy members) ∧
      answer (structured tree .policy content) state =
        .ok ⟨found.map violationIssue ++ structuralErrors .policy members, []⟩ := by
  obtain ⟨found, -, found_iff, answer_eq⟩ := describes_policy.answer_structured serves read
  exact ⟨found, found_iff, answer_eq⟩

private theorem isPolicy_of_structured {content : Text} {findings : Findings}
    (serves : Serves tree state .policy)
    (answered : answer (structured tree .policy content) state = .ok findings)
    (faultless : findings.errors = []) :
    (∃ members, Json.parse content = .ok (.object members) ∧ IsPolicy members) ∧
      findings.warnings = [] :=
  describes_policy.of_structured serves answered faultless

/-- An interaction policy is checked without errors exactly when its content is an object that
makes one, and then there is no warning either. -/
theorem validateContent_policy {file : String} {content : Text} {given : Option String}
    (serves : Serves tree state .policy)
    (asPolicy : tagFor? file given = some DataKind.policy.kind.tag) :
    ((∃ result, answer (validateContent tree file content given) state = .ok result ∧
        result.findings.errors = []) ↔
      ∃ members, Json.parse content = .ok (.object members) ∧ IsPolicy members) ∧
    ∀ result, answer (validateContent tree file content given) state = .ok result →
      result.findings.errors = [] → result.findings.warnings = [] := by
  simp only [answer_validateContent_data_iff asPolicy]
  refine ⟨⟨?_, ?_⟩, ?_⟩
  · rintro ⟨_, ⟨findings, answered, rfl⟩, faultless⟩
    exact (isPolicy_of_structured serves answered faultless).1
  · rintro ⟨members, read, policy⟩
    obtain ⟨found, found_iff, answer_eq⟩ := answer_structured_policy serves read
    refine ⟨_, ⟨_, answer_eq, rfl⟩, ?_⟩
    simp [found_iff.mpr policy, structuralErrors_of_isPolicy policy]
  · rintro _ ⟨findings, answered, rfl⟩ faultless
    exact (isPolicy_of_structured serves answered faultless).2

/-- A policy with nothing but the members that it must have. -/
def smallPolicy : List (CodePoints × Json) :=
  [(CodePoints.ofString "name", .words "a"), (CodePoints.ofString "url", .words "http://b"),
    (CodePoints.ofString "permissions", .array [.words "c"]),
    (CodePoints.ofString "restrictions", .object [])]

private theorem isPolicy_smallPolicy : IsPolicy smallPolicy := by
  have web : IsWebAddress (CodePoints.ofString "http://b") :=
    .inl (by simp [CodePoints.ofString, CodePoints.ofText])
  have filled (word : String) (given : word ≠ "") : IsFilled (.words word) :=
    ⟨CodePoints.ofString word, rfl, by simpa [CodePoints.ofString, CodePoints.ofText] using given⟩
  have absent {name : String} {property : Json → Prop}
      (other : name ∉ ["name", "url", "permissions", "restrictions"]) :
      MayHave smallPolicy name property := by
    simp only [List.mem_cons, List.not_mem_nil, or_false, not_or] at other
    simp [MayHave, smallPolicy, other]
  constructor
  case name => exact ⟨_, by simp [smallPolicy], filled "a" (by decide)⟩
  case url => exact ⟨.words "http://b", by simp [smallPolicy], _, rfl, web⟩
  case permissions =>
    refine ⟨.array [.words "c"], by simp [smallPolicy], .inl ⟨_, rfl, by simp, ?_⟩⟩
    simpa using filled "c" (by decide)
  case restrictions => exact ⟨.object [], by simp [smallPolicy], .inr ⟨_, rfl⟩⟩
  all_goals exact absent (by decide)

/-- A small policy passes. -/
theorem validateContent_smallPolicy :
    ∃ result, answer (validateContent bundledTree "ai.json"
        ("\x7b\"name\": \"a\", \"url\": \"http://b\", \"permissions\": [\"c\"], " ++
          "\"restrictions\": \x7b\x7d\x7d").toList none) (.fresh ⟨['/'], []⟩) = .ok result ∧
      result.findings.errors = [] ∧ result.findings.warnings = [] := by
  have asPolicy : tagFor? "ai.json" none = some DataKind.policy.kind.tag := by
    cbv
  have read : Json.parse
      ("\x7b\"name\": \"a\", \"url\": \"http://b\", \"permissions\": [\"c\"], " ++
        "\"restrictions\": \x7b\x7d\x7d").toList = .ok (.object smallPolicy) := by
    simp only [smallPolicy, Json.words, CodePoints.ofString]
    rewrite [String.toList_append]
    repeat rewrite [String.toList_ofList]
    exact Json.parse_eq_of_alike (by decide +kernel)
  obtain ⟨faultless_iff, quiet⟩ := validateContent_policy (serves_bundledTree .policy) asPolicy
  obtain ⟨result, answered, faultless⟩ := faultless_iff.mpr ⟨_, read, isPolicy_smallPolicy⟩
  exact ⟨result, answered, faultless, quiet result answered faultless⟩

end Checking

end Bundled
end DiscoveryFiles
