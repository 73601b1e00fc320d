import DiscoveryFiles.Proofs.Bundled.Node
import DiscoveryFiles.Proofs.Bundled.Verdict
import DiscoveryFiles.Proofs.Json.Identical
import DiscoveryFiles.Proofs.Service.Validation

/-!
# The bundled schema of the identity

The document of the schema is read off node by node.  Together with the checks that do not depend
on a schema it decides which identities have no errors.
-/

namespace DiscoveryFiles
namespace Bundled

open Schema

/-! ## The document -/

/-- The types that an organisation can have. -/
def organisationTypes : List String :=
  ["Organization", "Corporation", "LocalBusiness", "NGO", "EducationalOrganization",
    "GovernmentOrganization", "Person"]

/-- The members that the contact of an organisation declares. -/
def officeMembers : List (CodePoints × Json) :=
  [(CodePoints.ofString "email", patternNode mailPattern),
    (CodePoints.ofString "telephone", filledNode)]

/-- The node for the contact of an organisation. -/
def officeNode : Json :=
  .object [(CodePoints.ofString "type", .words "object"),
    (CodePoints.ofString "properties", .object officeMembers)]

/-- The members that the schema declares. -/
def identityMembers : List (CodePoints × Json) :=
  [(CodePoints.ofString "$schema", textNode),
    (CodePoints.ofString "name", filledNode),
    (CodePoints.ofString "url", referenceNode "httpUrl"),
    (CodePoints.ofString "type", choiceNode organisationTypes),
    (CodePoints.ofString "description", filledNode),
    (CodePoints.ofString "alternateNames", itemsNode filledNode),
    (CodePoints.ofString "founded", wholeNode),
    (CodePoints.ofString "logo", referenceNode "httpUrl"),
    (CodePoints.ofString "sameAs", itemsNode (referenceNode "httpUrl")),
    (CodePoints.ofString "contact", officeNode)]

/-- The definitions of the schema. -/
def identityDefinitions : List (CodePoints × Json) :=
  [(CodePoints.ofString "httpUrl", webNode)]

/-- The keywords of the schema. -/
def identityKeywords : List (CodePoints × Json) :=
  [(CodePoints.ofString "$schema", .words "https://json-schema.org/draft/2020-12/schema"),
    (CodePoints.ofString "$id",
      .words "https://www.ai-visibility.org.uk/schemas/identity-json.schema.json"),
    (CodePoints.ofString "title", .words "identity.json (ADF-006)"),
    (CodePoints.ofString "description",
      .words "Structured organisational identity for AI systems."),
    (CodePoints.ofString "type", .words "object"),
    (CodePoints.ofString "required",
      .array [.words "name", .words "url", .words "type", .words "description"]),
    (CodePoints.ofString "properties", .object identityMembers),
    (CodePoints.ofString "$defs", .object identityDefinitions)]

set_option maxRecDepth 10000 in
/-- The bundled text is read as the document. -/
theorem parse_identitySchema :
    Json.parse identitySchema.toList = .ok (.object identityKeywords) := by
  unfold identitySchema identityKeywords identityMembers identityDefinitions officeNode
    officeMembers organisationTypes itemsNode choiceNode wholeNode referenceNode webNode patternNode
    mailPattern filledNode textNode Json.words CodePoints.ofString
  -- The letters are spelled out, so that the texts are compared as lists.
  repeat rewrite [String.toList_append]
  repeat rewrite [String.toList_ofList]
  exact Json.parse_eq_of_alike (by decide +kernel)

private theorem identitySchema_unbroken : '\r' ∉ identitySchema.toList := by
  unfold identitySchema
  repeat rewrite [String.toList_append]
  repeat rewrite [String.toList_ofList]
  decide +kernel

/-! ## What the document accepts -/

/-- A value can stand for the contact of an organisation. -/
def IsOffice (data : Json) : Prop :=
  ∃ members, data = .object members ∧ MayHave members "email" (Fits mailPattern) ∧
    MayHave members "telephone" IsFilled

/-- The members of an object make the identity of an organisation. -/
structure IsIdentity (members : List (CodePoints × Json)) : Prop where
  /-- The name. -/
  name : Has members "name" IsFilled
  /-- A description. -/
  description : Has members "description" IsFilled
  /-- The address of the site. -/
  url : Has members "url" IsWeb
  /-- The type of the organisation. -/
  type : Has members "type" (IsAmong organisationTypes)
  /-- The schema that the identity follows. -/
  schema : MayHave members "$schema" IsText
  /-- Other names. -/
  alternateNames : MayHave members "alternateNames" (IsListOf IsFilled)
  /-- The year of the foundation. -/
  founded : MayHave members "founded" Json.IsWhole
  /-- The address of the logo. -/
  logo : MayHave members "logo" IsWeb
  /-- The addresses of other sites about the organisation. -/
  sameAs : MayHave members "sameAs" (IsListOf IsWeb)
  /-- Whom to ask. -/
  contact : MayHave members "contact" IsOffice

section Acceptance

variable {followed : List CodePoints}

/-- The context of an evaluation of the document. -/
def identityContext : Context :=
  ⟨.object identityKeywords, []⟩

private theorem accepts_officeNode : Accepts identityContext followed officeNode IsOffice := by
  have mails : Accepts identityContext [] (patternNode mailPattern) (Fits mailPattern) :=
    accepts_patternNode parse_mail (by decide) (by decide)
  have telephones : Accepts identityContext [] filledNode IsFilled := accepts_filledNode
  have members : AcceptsMembers identityContext officeMembers fun members =>
      MayHave members "email" (Fits mailPattern) ∧ MayHave members "telephone" IsFilled ∧ True :=
    acceptsMembers_cons mails <| acceptsMembers_cons telephones acceptsMembers_nil
  exact (accepts_object (isRecord_declared officeMembers) members).congr fun data => by
    simp [IsOffice]

/-- The keys that the schema requires. -/
def identityKeys : List String :=
  ["name", "url", "type", "description"]

theorem isRecord_identity :
    IsRecord identityKeywords (identityKeys.map CodePoints.ofString) identityMembers := by
  refine ⟨?_, ?_, ?_, ?_, ?_⟩
  · constructor <;> simp [identityKeywords]
  · simp [identityKeywords]
  · simp [identityKeys, requiredKeys, identityKeywords, elements, Json.words]
  · simp [properties, identityKeywords]
  · simp [identityKeywords]

/-- The document accepts identities. -/
theorem accepts_identity :
    Accepts identityContext [] (.object identityKeywords) fun data =>
      ∃ members, data = .object members ∧ IsIdentity members := by
  have texts : Accepts identityContext [] textNode IsText := accepts_textNode
  have filled : Accepts identityContext [] filledNode IsFilled := accepts_filledNode
  have known : keyword? "$defs" identityKeywords = some (.object identityDefinitions) := by
    simp [identityKeywords]
  have defined : Json.member? (CodePoints.ofString "httpUrl") identityDefinitions =
      some webNode := by
    simp [identityDefinitions]
  have webs : Accepts identityContext [] (referenceNode "httpUrl") IsWeb :=
    accepts_referenceNode rfl known defined (by simp [webNode]) List.not_mem_nil accepts_webNode
  have types : Accepts identityContext [] (choiceNode organisationTypes)
      (IsAmong organisationTypes) := accepts_choiceNode organisationTypes
  have years : Accepts identityContext [] wholeNode Json.IsWhole := accepts_wholeNode
  have members : AcceptsMembers identityContext identityMembers fun members =>
      MayHave members "$schema" IsText ∧ MayHave members "name" IsFilled ∧
      MayHave members "url" IsWeb ∧ MayHave members "type" (IsAmong organisationTypes) ∧
      MayHave members "description" IsFilled ∧
      MayHave members "alternateNames" (IsListOf IsFilled) ∧
      MayHave members "founded" Json.IsWhole ∧ MayHave members "logo" IsWeb ∧
      MayHave members "sameAs" (IsListOf IsWeb) ∧ MayHave members "contact" IsOffice ∧ True :=
    acceptsMembers_cons texts <| acceptsMembers_cons filled <| acceptsMembers_cons webs <|
      acceptsMembers_cons types <| acceptsMembers_cons filled <|
        acceptsMembers_cons (accepts_itemsNode filled) <| acceptsMembers_cons years <|
          acceptsMembers_cons webs <| acceptsMembers_cons (accepts_itemsNode webs) <|
            acceptsMembers_cons accepts_officeNode acceptsMembers_nil
  refine (accepts_object isRecord_identity members).congr fun data =>
    exists_congr fun members => and_congr_right fun _ => ?_
  simp only [identityKeys, List.map_cons, List.map_nil, List.forall_mem_cons, List.not_mem_nil,
    and_true]
  constructor
  · rintro ⟨⟨name, url, type, description, -⟩, schema, named, located, typed, described,
      alternateNames, founded, logo, sameAs, contact⟩
    exact ⟨.of_hasKey name named, .of_hasKey description described, .of_hasKey url located,
      .of_hasKey type typed, schema, alternateNames, founded, logo, sameAs, contact⟩
  · intro identity
    exact ⟨⟨identity.name.hasKey, identity.url.hasKey, identity.type.hasKey,
      identity.description.hasKey, by simp⟩, identity.schema, identity.name.mayHave,
      identity.url.mayHave, identity.type.mayHave, identity.description.mayHave,
      identity.alternateNames, identity.founded, identity.logo, identity.sameAs,
      identity.contact⟩

end Acceptance

/-! ## Checking an identity -/

section Checking

open Check Service

variable {tree : FileTree} {state : ServiceState}

/-- An identity that the schema accepts lacks nothing. -/
theorem structuralErrors_of_isIdentity {members : List (CodePoints × Json)}
    (identity : IsIdentity members) : structuralErrors .identity members = [] := by
  obtain ⟨name, name_eq, -⟩ := identity.name
  obtain ⟨url, url_eq, -⟩ := identity.url
  obtain ⟨type, type_eq, -⟩ := identity.type
  obtain ⟨description, description_eq, -⟩ := identity.description
  simp [structuralErrors, requiredMembers, name_eq, url_eq, type_eq, description_eq]

/-- The bundled schema for identities comes down to what makes an identity. -/
theorem describes_identity : Describes .identity identityKeywords IsIdentity where
  read := parse_identitySchema
  unbroken := identitySchema_unbroken
  accepts := accepts_identity
  complete := fun _ => structuralErrors_of_isIdentity

/-- The identity of an organisation is checked without errors exactly when its content is an object
that makes one. -/
theorem validateContent_identity {file : String} {content : Text} {given : Option String}
    (serves : Serves tree state .identity)
    (asIdentity : tagFor? file given = some DataKind.identity.kind.tag) :
    (∃ result, answer (validateContent tree file content given) state = .ok result ∧
        result.findings.errors = []) ↔
      ∃ members, Json.parse content = .ok (.object members) ∧ IsIdentity members := by
  simp only [answer_validateContent_data_iff asIdentity]
  constructor
  · rintro ⟨_, ⟨findings, answered, rfl⟩, faultless⟩
    exact (describes_identity.of_structured serves answered faultless).1
  · rintro ⟨members, read, identity⟩
    have answered := describes_identity.answer_structured_of_property serves read identity
    exact ⟨_, ⟨_, answered, rfl⟩, rfl⟩

/-- An identity whose year of foundation is written with a fraction. -/
def smallIdentity : List (CodePoints × Json) :=
  [(CodePoints.ofString "name", .words "a"), (CodePoints.ofString "url", .words "https://b"),
    (CodePoints.ofString "type", .words "NGO"), (CodePoints.ofString "description", .words "c"),
    (CodePoints.ofString "founded", .double (.finite false 6755399441055744 (-51)))]

private theorem isIdentity_smallIdentity : IsIdentity smallIdentity := by
  have web : IsWebAddress (CodePoints.ofString "https://b") :=
    .inr (by simp [CodePoints.ofString, CodePoints.ofText])
  have filled (word : String) (given : word ≠ "") : IsFilled (.words word) :=
    ⟨CodePoints.ofString word, rfl, by simpa [CodePoints.ofString, CodePoints.ofText] using given⟩
  have absent {name : String} {property : Json → Prop}
      (other : name ∉ ["name", "url", "type", "description", "founded"]) :
      MayHave smallIdentity name property := by
    simp only [List.mem_cons, List.not_mem_nil, or_false, not_or] at other
    simp [MayHave, smallIdentity, other]
  constructor
  case name => exact ⟨_, by simp [smallIdentity], filled "a" (by decide)⟩
  case description => exact ⟨_, by simp [smallIdentity], filled "c" (by decide)⟩
  case url => exact ⟨.words "https://b", by simp [smallIdentity], _, rfl, web⟩
  case type =>
    exact ⟨.words "NGO", by simp [smallIdentity], "NGO", by simp [organisationTypes], rfl⟩
  case founded =>
    have whole : (Json.double (.finite false 6755399441055744 (-51))).IsWhole :=
      (Json.isInteger_iff _).mp (by decide +kernel)
    simpa [MayHave, smallIdentity] using whole
  all_goals exact absent (by decide)

/-- A small identity passes. -/
theorem validateContent_smallIdentity :
    ∃ result, answer (validateContent bundledTree "identity.json"
        ("\x7b\"name\": \"a\", \"url\": \"https://b\", \"type\": \"NGO\", " ++
          "\"description\": \"c\", \"founded\": 3.0\x7d").toList none)
        (.fresh ⟨['/'], []⟩) = .ok result ∧
      result.findings.errors = [] := by
  have asIdentity : tagFor? "identity.json" none = some DataKind.identity.kind.tag := by
    cbv
  have read : Json.parse
      ("\x7b\"name\": \"a\", \"url\": \"https://b\", \"type\": \"NGO\", " ++
        "\"description\": \"c\", \"founded\": 3.0\x7d").toList = .ok (.object smallIdentity) := by
    simp only [smallIdentity, Json.words, CodePoints.ofString]
    rewrite [String.toList_append]
    repeat rewrite [String.toList_ofList]
    exact Json.parse_eq_of_alike (by decide +kernel)
  exact (validateContent_identity (serves_bundledTree .identity) asIdentity).mpr
    ⟨_, read, isIdentity_smallIdentity⟩

end Checking

end Bundled
end DiscoveryFiles
