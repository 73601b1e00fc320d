import DiscoveryFiles.Proofs.Check.Structured
import DiscoveryFiles.Proofs.Json.Identical
import DiscoveryFiles.Proofs.SchemaStore.Fetch
import DiscoveryFiles.Proofs.SchemaStore.History
import DiscoveryFiles.Proofs.Service.Validation

/-!
# Recovery from a useless schema

A schema that is of no use leaves a warning.  Whether the service looks at the schema file again
afterwards depends on what kept the schema from being used: a schema that could not be loaded is
loaded anew, and one that could not be evaluated has been kept.
-/

namespace DiscoveryFiles
namespace Service

open Check SchemaStore

/-! ## Requests -/

/-- A file to be checked, and the files that the service finds at that time. -/
structure Request where
  /-- The files. -/
  tree : FileTree
  /-- The name of the file. -/
  file : String
  /-- The content of the file. -/
  content : Text
  /-- The tag that the file is to be checked under, if it is given. -/
  given : Option String

namespace Request

/-- The tag that the file is checked under. -/
def tag? (request : Request) : Option String :=
  tagFor? request.file request.given

/-- The check that is asked for. -/
def run (request : Request) : Service Result :=
  validateContent request.tree request.file request.content request.given

end Request

/-- The state behind a sequence of requests. -/
def afterAll (requests : List Request) (state : ServiceState) : ServiceState :=
  requests.foldl (fun state request => after request.run state) state

/-! ## What a check depends on -/

section Dependence

variable {tree other : FileTree} {first second : ServiceState} {content : Text}

private theorem answer_structured_congr (kind : DataKind)
    (same : first.store.loaded tree kind.kind.tag = second.store.loaded other kind.kind.tag) :
    answer (structured tree kind content) first =
      answer (structured other kind content) second := by
  rw [structured, structured]
  split
  · rfl
  · rfl
  · simp only [answer_bind, answer_schemaFindings, consulted, same, answer_pure]
  · rfl

private theorem answer_findingsForTag_congr {tag : String}
    (same : first.store.loaded tree tag = second.store.loaded other tag) :
    answer (findingsForTag tree content tag) first =
      answer (findingsForTag other content tag) second := by
  rw [findingsForTag, findingsForTag]
  cases found : Kind.ofTag? tag with
  | none => rfl
  | some kind =>
      obtain rfl : kind.tag = tag := by simpa using List.find?_some found
      cases kind with
      | aiJson => exact answer_structured_congr .policy same
      | identityJson => exact answer_structured_congr .identity same
      | _ => rfl

/-- A check sees the files and the state of the service only through the document that loading the
schema for its tag gives. -/
theorem answer_validateContent_congr {file : String} {given : Option String} {tag : String}
    (tag_eq : tagFor? file given = some tag)
    (same : first.store.loaded tree tag = second.store.loaded other tag) :
    answer (validateContent tree file content given) first =
      answer (validateContent other file content given) second := by
  simp only [answer_validateContent, tag_eq, answer_findingsForTag_congr same]

end Dependence

/-! ## What a check does to the store -/

section Effect

variable {tree : FileTree} {state : ServiceState} {content : Text}

private theorem store_after_schemaFindings (kind : DataKind) (data : Json) :
    (after (schemaFindings tree kind data) state).store =
      (after (load tree kind.kind.tag) state).store := by
  have rescue_eq (failure : Failure) (state : ServiceState) :
      after (if failure.concernsSchema then
          pure (Findings.warning ("Could not load JSON Schema: " ++ failure.message))
        else throw failure) state = state := by
    cases failure.concernsSchema <;> rfl
  simp only [schemaFindings, after_tryCatch, after_bind, answer_bind, rescue_eq]
  cases answer (load tree kind.kind.tag) state with
  | error failure => rfl
  | ok outcome =>
      cases outcome with
      | none => rfl
      | some document =>
          simp only [answer_lift, after_lift]
          cases evaluate document data <;> rfl

private theorem store_after_structured {kind : DataKind} {members : List (CodePoints × Json)}
    (read : Json.parse content = .ok (.object members)) :
    (after (structured tree kind content) state).store =
      (after (load tree kind.kind.tag) state).store := by
  simp only [structured, read, after_bind, after_pure]
  rw [← store_after_schemaFindings kind (.object members)]
  cases answer (schemaFindings tree kind (.object members)) state <;> rfl

/-- Checking a file of data loads its schema if the file holds an object, and does nothing to the
store otherwise. -/
theorem store_after_structured_cases (kind : DataKind) :
    (after (structured tree kind content) state).store = state.store ∨
      (after (structured tree kind content) state).store =
        (after (load tree kind.kind.tag) state).store := by
  cases read : Json.parse content with
  | error error => cases error <;> exact .inl (by simp [structured, read])
  | ok value =>
      cases value with
      | object members => exact .inr (store_after_structured read)
      | _ => exact .inl (by simp [structured, read])

theorem store_after_findingsForTag (tag : String) :
    (after (findingsForTag tree content tag) state).store = state.store ∨
      (after (findingsForTag tree content tag) state).store =
        (after (load tree tag) state).store := by
  rw [findingsForTag]
  cases found : Kind.ofTag? tag with
  | none => exact .inl rfl
  | some kind =>
      obtain rfl : kind.tag = tag := by simpa using List.find?_some found
      cases kind with
      | aiJson => exact store_after_structured_cases .policy
      | identityJson => exact store_after_structured_cases .identity
      | _ => exact .inl rfl

theorem store_after_validateContent {file : String} {given : Option String} {tag : String}
    (tag_eq : tagFor? file given = some tag) :
    (after (validateContent tree file content given) state).store =
      (after (findingsForTag tree content tag) state).store := by
  rw [validateContent.eq_def, tag_eq]
  simp only [after_bind, note]
  cases answer (findingsForTag tree content tag) state <;> rfl

/-- Checking an object under the tag of a kind of data loads the schema for the kind. -/
theorem store_after_run {request : Request} {kind : DataKind} {members : List (CodePoints × Json)}
    (asKind : request.tag? = some kind.kind.tag)
    (read : Json.parse request.content = .ok (.object members)) (state : ServiceState) :
    (after request.run state).store =
      (after (load request.tree kind.kind.tag) state).store := by
  rw [Request.run, store_after_validateContent asKind, findingsForTag, Kind.ofTag?_tag]
  cases kind <;> exact store_after_structured read

end Effect

/-- A check under another tag makes no difference for a file type. -/
theorem agreesOn_after_run {request : Request} {tag : String} (differs : request.tag? ≠ some tag)
    (state : ServiceState) : (after request.run state).store.AgreesOn tag state.store := by
  cases tag_eq : request.tag? with
  | none =>
      have same : after request.run state = state := by
        rw [Request.run, validateContent.eq_def, show tagFor? request.file request.given = none
          from tag_eq, after_pure]
      rw [same]
      exact .refl tag state.store
  | some checked =>
      have other : tag ≠ checked := fun same => differs (same ▸ tag_eq)
      rw [Request.run, store_after_validateContent tag_eq]
      rcases store_after_findingsForTag checked with same | loads
      · rw [same]
        exact .refl tag state.store
      · rw [loads]
        exact agreesOn_after_load other

private theorem agreesOn_afterAll {requests : List Request} {tag : String}
    (differ : ∀ request ∈ requests, request.tag? ≠ some tag) (state : ServiceState) :
    (afterAll requests state).store.AgreesOn tag state.store := by
  induction requests generalizing state with
  | nil => exact .refl tag state.store
  | cons request requests induction =>
      obtain ⟨first, rest⟩ := List.forall_mem_cons.mp differ
      exact (induction rest (after request.run state)).trans (agreesOn_after_run first state)

/-! ## Warnings -/

section Warning

variable {tree : FileTree} {kind : DataKind} {content : Text} {state : ServiceState}

private theorem warnings_of_consulted {store : SchemaStore} {data : Json} {findings : Findings}
    (returned : consulted tree store kind data = .ok findings) : findings.warnings = [] := by
  rw [consulted] at returned
  split at returned
  · cases returned
  · obtain rfl := Except.ok.inj returned
    rfl
  next document _ =>
    rw [evaluate] at returned
    split at returned
    · obtain rfl := Except.ok.inj returned
      rw [violationFindings_eq]
    · cases returned

/-- There is a warning only if the schema is consulted and of no use. -/
theorem exists_failure_of_warning {findings : Findings}
    (answered : answer (structured tree kind content) state = .ok findings)
    (warned : findings.warnings ≠ []) :
    ∃ members failure, Json.parse content = .ok (.object members) ∧
      consulted tree state.store kind (.object members) = .error failure ∧
      failure.concernsSchema = true := by
  by_cases isObject : ∃ members, Json.parse content = .ok (.object members)
  · obtain ⟨members, read⟩ := isObject
    rw [answer_structured_object read] at answered
    cases consulted_eq : consulted tree state.store kind (.object members) with
    | ok fromSchema =>
        rw [consulted_eq] at answered
        obtain rfl := Except.ok.inj answered
        simp [warnings_of_consulted consulted_eq] at warned
    | error failure =>
        simp only [consulted_eq] at answered
        split at answered
        next concerns => exact ⟨members, failure, read, consulted_eq, concerns⟩
        · cases answered
  · have other : ∀ members, Json.parse content ≠ .ok (.object members) :=
      fun members read => isObject ⟨members, read⟩
    obtain ⟨issue, rfl⟩ := answer_structured_other other answered
    exact absurd rfl warned

end Warning

/-! ## Recovery -/

section Recovery

variable {kind : DataKind} {failing : Request} {others : List Request} {state : ServiceState}
  {result : Result}

/-- A store that fails to load a schema has kept nothing for its kind. -/
theorem lookup_eq_none_of_error {store : SchemaStore} {tree : FileTree} {failure : Failure}
    (failed : store.loaded tree kind.kind.tag = .error failure) :
    store.kept.lookup kind.kind.tag = none := by
  rw [loaded, path?_kind] at failed
  cases kept_eq : store.kept.lookup kind.kind.tag with
  | none => rfl
  | some document =>
      rw [kept_eq] at failed
      cases failed

/-- A schema that could not be loaded is loaded anew. -/
theorem recovers_of_error {members : List (CodePoints × Json)} {failure : Failure}
    (asKind : failing.tag? = some kind.kind.tag)
    (read : Json.parse failing.content = .ok (.object members))
    (failed : state.store.loaded failing.tree kind.kind.tag = .error failure)
    (between : ∀ request ∈ others, request.tag? ≠ some kind.kind.tag) {next : Request}
    (nextKind : next.tag? = some kind.kind.tag) :
    answer next.run (afterAll others (after failing.run state)) =
      answer next.run (.fresh state.store.directory) := by
  have unchanged : (after failing.run state).store = state.store := by
    rw [store_after_run asKind read]
    exact store_after_load_of_no_document fun document => by simp [failed]
  have agrees : (afterAll others (after failing.run state)).store.AgreesOn kind.kind.tag
      ⟨state.store.directory, []⟩ := by
    have later := agreesOn_afterAll between (after failing.run state)
    rw [unchanged] at later
    exact later.trans (agreesOn_new (lookup_eq_none_of_error failed))
  exact answer_validateContent_congr nextKind (agrees.loaded_eq next.tree)

/-- A schema that has been loaded is kept, whether it could be evaluated or not. -/
theorem loaded_afterAll {members : List (CodePoints × Json)} {document : Json}
    (asKind : failing.tag? = some kind.kind.tag)
    (read : Json.parse failing.content = .ok (.object members))
    (given : state.store.loaded failing.tree kind.kind.tag = .ok (some document))
    (between : ∀ request ∈ others, request.tag? ≠ some kind.kind.tag) (tree : FileTree) :
    (afterAll others (after failing.run state)).store.loaded tree kind.kind.tag =
      .ok (some document) := by
  have kept : (after failing.run state).store.kept.lookup kind.kind.tag = some document := by
    rw [store_after_run asKind read]
    exact lookup_after_load given
  rw [(agreesOn_afterAll between _).loaded_eq tree, loaded, path?_kind,
    kept]

/-- A new service in front of an empty directory has no warnings. -/
theorem warnings_of_fresh {tree : FileTree} {directory : Path} {content : Text}
    {findings : Findings} (empty : tree.top = .directory [])
    (answered : answer (structured tree kind content) (.fresh directory) = .ok findings) :
    findings.warnings = [] := by
  by_contra warned
  obtain ⟨members, failure, -, consulted_eq, concerns⟩ := exists_failure_of_warning answered warned
  have absent := FileTree.isFile_ne_ok_true_of_empty empty
    (directory.child (schemaName kind.kind.tag))
  rw [consulted, loaded, path?_kind] at consulted_eq
  rcases fetch_of_no_file absent with nothing | invisible
  · simp [ServiceState.fresh, nothing] at consulted_eq
  · simp only [ServiceState.fresh, List.lookup_nil, invisible, Except.error.injEq] at consulted_eq
    subst consulted_eq
    cases concerns

/-- After a warning about the schema, and checks under other tags, the next check does as with a
new service on any files exactly when the schema could not be loaded.  A schema that could be loaded
is the one in use from then on, whatever the files are. -/
theorem recovers_iff {reason : String} (asKind : failing.tag? = some kind.kind.tag)
    (answered : answer failing.run state = .ok result)
    (warned : ⟨"Could not load JSON Schema: " ++ reason, none⟩ ∈ result.findings.warnings)
    (between : ∀ request ∈ others, request.tag? ≠ some kind.kind.tag) :
    ((∀ next : Request, next.tag? = some kind.kind.tag →
      answer next.run (afterAll others (after failing.run state)) =
        answer next.run (.fresh state.store.directory)) ↔
      ∃ failure,
        answer (load failing.tree kind.kind.tag) state = .error failure) ∧
    ∀ document,
      answer (load failing.tree kind.kind.tag) state = .ok (some document) →
      ∀ tree,
        answer (load tree kind.kind.tag)
          (afterAll others (after failing.run state)) = .ok (some document) := by
  obtain ⟨findings, structured_eq, rfl⟩ := (answer_validateContent_data_iff asKind).mp answered
  obtain ⟨members, failure, read, consulted_eq, -⟩ :=
    exists_failure_of_warning structured_eq (List.ne_nil_of_mem warned)
  simp only [answer_load]
  refine ⟨⟨fun recovers => ?onlyFailures, ?failures⟩, ?kept⟩
  case onlyFailures =>
    cases loaded_eq : state.store.loaded failing.tree kind.kind.tag with
    | error failure => exact ⟨failure, rfl⟩
    | ok outcome =>
        cases outcome with
        | none => simp [consulted, loaded_eq] at consulted_eq
        | some document =>
            -- On an empty directory, the service still has the warning that a new one has not.
            let next : Request := { failing with tree := ⟨.directory [], ⟨['/'], []⟩, []⟩ }
            have kept := loaded_afterAll asKind read loaded_eq between next.tree
            have stale : answer next.run (afterAll others (after failing.run state)) =
                .ok ⟨failing.file, kind.kind.tag, findings⟩ :=
              (answer_validateContent_congr asKind (kept.trans loaded_eq.symm)).trans answered
            rw [recovers next asKind] at stale
            obtain ⟨_, fresh_eq, same⟩ := (answer_validateContent_data_iff asKind).mp stale
            obtain ⟨-, -, rfl⟩ := Result.mk.inj same
            rw [warnings_of_fresh rfl fresh_eq] at warned
            cases warned
  case failures =>
    rintro ⟨failure, failed⟩ next nextKind
    exact recovers_of_error asKind read failed between nextKind
  case kept =>
    intro document given tree
    exact loaded_afterAll asKind read given between tree

end Recovery

/-! ## A policy in front of replaced schemas -/

/-- A policy with a name alone is to be checked. -/
def namedPolicy (tree : FileTree) : Request :=
  ⟨tree, "ai.json", "\x7b\"name\": \"x\"\x7d".toList, none⟩

private theorem tag?_namedPolicy (tree : FileTree) :
    (namedPolicy tree).tag? = some DataKind.policy.kind.tag := by
  have tag_eq : tagFor? "ai.json" none = some DataKind.policy.kind.tag := by
    cbv
  exact tag_eq

private theorem parse_namedPolicy (tree : FileTree) :
    Json.parse (namedPolicy tree).content =
      .ok (.object [(CodePoints.ofString "name", .words "x")]) := by
  simp only [namedPolicy, Json.words, CodePoints.ofString]
  repeat rewrite [String.toList_ofList]
  exact Json.parse_eq_of_alike (by decide +kernel)

/-- A useless schema leaves a warning for the policy. -/
theorem answer_namedPolicy {tree : FileTree} {state : ServiceState} {failure : Failure}
    (failed : consulted tree state.store .policy
      (.object [(CodePoints.ofString "name", .words "x")]) = .error failure)
    (concerns : failure.concernsSchema = true) :
    ∃ result, answer (namedPolicy tree).run state = .ok result ∧
      result.findings.warnings = [uselessSchema failure] := by
  have structured_eq : answer (structured tree .policy (namedPolicy tree).content) state =
      .ok ⟨structuralErrors .policy [(CodePoints.ofString "name", .words "x")],
        [uselessSchema failure]⟩ := by
    simp only [answer_structured_object (parse_namedPolicy tree), failed, concerns, if_true]
  have answered :=
    (answer_validateContent_data_iff (tag?_namedPolicy tree)).mpr ⟨_, structured_eq, rfl⟩
  exact ⟨_, answered, rfl⟩

/-- A schema that is no object is not kept.  When an object is put in its place, the service does
as a new one. -/
theorem recovers_from_array :
    let mended := (schemaTree "[]").write schemaPath (Utf8.encode "\x7b\x7d".toList)
    (∃ result, answer (namedPolicy (schemaTree "[]")).run (.fresh ⟨['/'], []⟩) = .ok result ∧
      ⟨"Could not load JSON Schema: Schema root MUST be a JSON object", none⟩ ∈
        result.findings.warnings) ∧
    answer (namedPolicy mended).run
        (after (namedPolicy (schemaTree "[]")).run (.fresh ⟨['/'], []⟩)) =
      answer (namedPolicy mended).run (.fresh ⟨['/'], []⟩) := by
  intro mended
  have parsed : Json.parse "[]".toList = .ok (.array []) := Json.parse_eq_of_alike (by decide)
  have failed : loaded (schemaTree "[]") (ServiceState.fresh ⟨['/'], []⟩).store
      DataKind.policy.kind.tag = .error (.schema .notObject) := by
    rw [ServiceState.fresh, loaded_schemaTree]
    exact fetch_of_read_other (read_schemaTree "[]") (by decide) parsed (by simp)
  have useless : consulted (schemaTree "[]") (ServiceState.fresh ⟨['/'], []⟩).store .policy
      (.object [(CodePoints.ofString "name", .words "x")]) = .error (.schema .notObject) := by
    rw [consulted, failed]
  obtain ⟨result, answered, warnings_eq⟩ := answer_namedPolicy useless rfl
  have warned : ⟨"Could not load JSON Schema: " ++ "Schema root MUST be a JSON object", none⟩ ∈
      result.findings.warnings := by
    rw [warnings_eq]
    exact List.mem_singleton_self _
  have load_eq := (answer_load _ _ _).trans failed
  have between : ∀ request ∈ ([] : List Request),
      request.tag? ≠ some DataKind.policy.kind.tag := by
    simp
  have recovers :=
    (recovers_iff (tag?_namedPolicy (schemaTree "[]")) answered warned between).1.mpr
      ⟨_, load_eq⟩
  exact ⟨⟨result, answered, warned⟩, recovers _ (tag?_namedPolicy mended)⟩

/-- A schema with a pattern that cannot be read. -/
def brokenSchema : String :=
  "\x7b\"properties\": \x7b\"name\": \x7b\"pattern\": \"(\"\x7d\x7d\x7d"

/-- The members of the schema with a pattern that cannot be read. -/
def brokenMembers : List (CodePoints × Json) :=
  [(CodePoints.ofString "properties", .object [
    (CodePoints.ofString "name", .object [(CodePoints.ofString "pattern", .words "(")])])]

private theorem parse_brokenSchema :
    Json.parse brokenSchema.toList = .ok (.object brokenMembers) := by
  simp only [brokenSchema, brokenMembers, Json.words, CodePoints.ofString]
  repeat rewrite [String.toList_ofList]
  exact Json.parse_eq_of_alike (by decide +kernel)

private theorem violations_brokenMembers :
    Schema.violations (some (.object brokenMembers)) [] (.object brokenMembers)
        (.object [(CodePoints.ofString "name", .words "x")]) =
      .error (.badPattern (CodePoints.ofString "(") ⟨.openGroup, some 0⟩) := by
  have unreadable : Pattern.parse (CodePoints.ofString "(") = .error ⟨.openGroup, some 0⟩ := by
    rfl
  have given : (Json.string (CodePoints.ofString "(")).isGiven = true := by
    rfl
  rw [Schema.violations_eq_check]
  nth_rewrite 3 [brokenMembers]
  simp [Schema.check, Schema.checkAlternatives, Schema.checkInside, Schema.checkMembers,
    Schema.checkMember, Schema.typeViolation?, Schema.ownViolations, Schema.optionViolations,
    Schema.requiredKeys, Schema.properties, Schema.requiredViolations, Schema.lengthViolations,
    Schema.patternViolations, Json.words, given, unreadable, Schema.Fault.ofPattern]

private theorem consulted_brokenSchema {tree : FileTree} {state : ServiceState}
    (loaded : state.store.loaded tree DataKind.policy.kind.tag =
      .ok (some (.object brokenMembers))) :
    consulted tree state.store .policy (.object [(CodePoints.ofString "name", .words "x")]) =
      .error (.evaluation (.badPattern (CodePoints.ofString "(") ⟨.openGroup, some 0⟩)) := by
  rw [consulted, loaded]
  simp only [evaluate, violations_brokenMembers]

/-- Under the schema without keywords the policy has no warning. -/
theorem answer_namedPolicy_of_empty {tree : FileTree} {state : ServiceState}
    (loaded : state.store.loaded tree DataKind.policy.kind.tag = .ok (some (.object []))) :
    ∃ result, answer (namedPolicy tree).run state = .ok result ∧
      result.findings.warnings = [] := by
  have accepted : Schema.violations (some (.object [])) [] (.object [])
      (.object [(CodePoints.ofString "name", .words "x")]) = .ok [] := by
    rw [Schema.violations_eq_check]
    simp [Schema.check, Schema.checkAlternatives, Schema.checkInside, Schema.checkMembers,
      Schema.typeViolation?, Schema.ownViolations, Schema.optionViolations,
      Schema.constantViolations, Schema.requiredKeys, Schema.properties,
      Schema.requiredViolations, Schema.undeclaredViolations]
  have structured_eq : answer (structured tree .policy (namedPolicy tree).content) state =
      .ok ⟨structuralErrors .policy [(CodePoints.ofString "name", .words "x")], []⟩ := by
    rw [answer_structured_object (parse_namedPolicy tree), consulted, loaded]
    simp only [evaluate, accepted]
    rfl
  have answered :=
    (answer_validateContent_data_iff (tag?_namedPolicy tree)).mpr ⟨_, structured_eq, rfl⟩
  exact ⟨_, answered, rfl⟩

/-- A schema with a pattern that cannot be read is kept.  When another schema is put in its place,
the warning about it remains, though a new service has none. -/
theorem brokenSchema_remains :
    let mended := (schemaTree brokenSchema).write schemaPath (Utf8.encode "\x7b\x7d".toList)
    ∃ warned stale new : Result,
      answer (namedPolicy (schemaTree brokenSchema)).run (.fresh ⟨['/'], []⟩) = .ok warned ∧
      (∃ reason : String,
        ⟨"Could not load JSON Schema: " ++ reason, none⟩ ∈ warned.findings.warnings) ∧
      answer (namedPolicy mended).run
        (after (namedPolicy (schemaTree brokenSchema)).run (.fresh ⟨['/'], []⟩)) = .ok stale ∧
      answer (namedPolicy mended).run (.fresh ⟨['/'], []⟩) = .ok new ∧
      stale.findings.warnings ≠ [] ∧ new.findings.warnings = [] := by
  intro mended
  have broken : loaded (schemaTree brokenSchema)
      (ServiceState.fresh ⟨['/'], []⟩).store DataKind.policy.kind.tag =
        .ok (some (.object brokenMembers)) := by
    rw [ServiceState.fresh, loaded_schemaTree]
    exact fetch_of_read (read_schemaTree brokenSchema) (by decide) parse_brokenSchema
  have between : ∀ request ∈ ([] : List Request),
      request.tag? ≠ some DataKind.policy.kind.tag := by
    simp
  have kept := loaded_afterAll (tag?_namedPolicy (schemaTree brokenSchema))
    (parse_namedPolicy _) broken between mended
  have replaced : loaded mended (ServiceState.fresh ⟨['/'], []⟩).store
      DataKind.policy.kind.tag = .ok (some (.object [])) := by
    rw [ServiceState.fresh, show mended = schemaTree "\x7b\x7d" from write_schemaTree _ _,
      loaded_schemaTree]
    exact fetch_of_read (read_schemaTree _) (by decide)
      (Json.parse_eq_of_alike (by decide))
  obtain ⟨warned, warned_eq, warnings_eq⟩ :=
    answer_namedPolicy (consulted_brokenSchema broken) rfl
  obtain ⟨stale, stale_eq, still_eq⟩ := answer_namedPolicy (consulted_brokenSchema kept) rfl
  obtain ⟨new, new_eq, quiet⟩ := answer_namedPolicy_of_empty replaced
  have reported : ∃ reason : String,
      ⟨"Could not load JSON Schema: " ++ reason, none⟩ ∈ warned.findings.warnings := by
    rw [warnings_eq]
    exact ⟨_, List.mem_singleton_self _⟩
  exact ⟨warned, stale, new, warned_eq, reported, stale_eq, new_eq, by simp [still_eq], quiet⟩

end Service
end DiscoveryFiles
