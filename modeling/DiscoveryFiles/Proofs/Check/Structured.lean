import DiscoveryFiles.Check.Structured
import DiscoveryFiles.Proofs.Json.Identical
import DiscoveryFiles.Proofs.Schema.Conformance
import DiscoveryFiles.Proofs.Service.Answer

/-!
# The outcome for a file of data

The findings for a file of data consist of what its schema finds and of what it lacks in any case.
A schema that cannot be had or evaluated leaves a single warning and nothing else behind.
-/

namespace DiscoveryFiles

/-! ## Findings without warnings -/

namespace Findings

private theorem append_mk (errors others warnings cautions : List Issue) :
    (⟨errors, warnings⟩ : Findings) ++ (⟨others, cautions⟩ : Findings) =
      ⟨errors ++ others, warnings ++ cautions⟩ := rfl

/-- Checks without warnings put their errors one after the other. -/
theorem all_errors {α : Type} (errorsOf : α → List Issue) (elements : List α) :
    all (elements.map fun element => ⟨errorsOf element, []⟩) =
      ⟨elements.flatMap errorsOf, []⟩ := by
  induction elements with
  | nil => rfl
  | cons element others induction =>
      simp only [all, List.map_cons, List.foldr_cons] at induction ⊢
      rw [induction]
      rfl

end Findings

namespace Check

open Service

/-! ## What an object lacks -/

/-- The error for an absent member. -/
def missingIssue (name : String) : Issue :=
  ⟨"Property \"" ++ name ++ "\" is REQUIRED", none⟩

/-- The error for permissions that are the array without items. -/
def emptyPermissions : Issue :=
  ⟨"Property \"permissions\" MUST NOT be empty", none⟩

/-- The errors that depend on the object alone: one for each absent member in the fixed order, and
one for empty permissions in a policy. -/
def structuralErrors (kind : DataKind) (members : List (CodePoints × Json)) : List Issue :=
  ((requiredMembers kind).filter fun name =>
    (Json.member? (CodePoints.ofString name) members).isNone).map missingIssue ++
    match kind with
    | .policy =>
        if isEmptyArray (Json.member? (CodePoints.ofString "permissions") members)
        then [emptyPermissions] else []
    | .identity => []

theorem isEmptyArray_iff (value : Option Json) :
    isEmptyArray value = true ↔ value = some (.array []) := by
  rw [isEmptyArray.eq_def]
  split <;> simp_all

private theorem memberFindings_eq (kind : DataKind) (members : List (CodePoints × Json)) :
    memberFindings kind members =
      ⟨((requiredMembers kind).filter fun name =>
        (Json.member? (CodePoints.ofString name) members).isNone).map missingIssue, []⟩ := by
  have each (name : String) :
      Findings.require (Json.member? (CodePoints.ofString name) members).isSome
        (.error ("Property \"" ++ name ++ "\" is REQUIRED")) =
      ⟨if (Json.member? (CodePoints.ofString name) members).isNone then [missingIssue name]
        else [], []⟩ := by
    cases Json.member? (CodePoints.ofString name) members <;> rfl
  simp only [memberFindings, each, Findings.all_errors, Findings.mk.injEq, and_true]
  induction requiredMembers kind with
  | nil => rfl
  | cons name names induction =>
      rw [List.flatMap_cons, induction]
      by_cases absent : (Json.member? (CodePoints.ofString name) members).isNone <;> simp [absent]

theorem structuralFindings_eq (kind : DataKind) (members : List (CodePoints × Json)) :
    structuralFindings kind members = ⟨structuralErrors kind members, []⟩ := by
  cases kind with
  | policy =>
      simp only [structuralFindings, memberFindings_eq, structuralErrors]
      cases isEmptyArray (Json.member? (CodePoints.ofString "permissions") members) <;> rfl
  | identity =>
      simp only [structuralFindings, memberFindings_eq, structuralErrors]
      rfl

/-! ## What a schema finds -/

/-- A violation of a schema as an error. -/
def violationIssue (violation : Schema.Violation) : Issue :=
  ⟨"Schema: " ++ violation.path [] ++ " — " ++ violation.message, none⟩

theorem violationFindings_eq (violations : List Schema.Violation) :
    violationFindings violations = ⟨violations.map violationIssue, []⟩ := by
  have all_eq := Findings.all_errors (fun violation => [violationIssue violation]) violations
  rw [← List.map_eq_flatMap] at all_eq
  exact all_eq

/-- The warning that the schema is of no use. -/
def uselessSchema (failure : Failure) : Issue :=
  ⟨"Could not load JSON Schema: " ++ failure.message, none⟩

/-- What the schema for a kind of file finds in data, as far as there is one that can be had and
evaluated. -/
def consulted (tree : FileTree) (store : SchemaStore) (kind : DataKind) (data : Json) :
    Except Failure Findings :=
  match store.loaded tree kind.kind.tag with
  | .error failure => .error failure
  | .ok none => .ok .none
  | .ok (some document) => evaluate document data

theorem answer_schemaFindings (tree : FileTree) (kind : DataKind) (data : Json)
    (state : ServiceState) :
    answer (schemaFindings tree kind data) state =
      match consulted tree state.store kind data with
      | .ok findings => .ok findings
      | .error failure =>
          if failure.concernsSchema then .ok ⟨[], [uselessSchema failure]⟩
          else .error failure := by
  have rescue_eq (failure : Failure) (state : ServiceState) :
      answer (if failure.concernsSchema then
          pure (Findings.warning ("Could not load JSON Schema: " ++ failure.message))
        else throw failure) state =
      if failure.concernsSchema then .ok ⟨[], [uselessSchema failure]⟩ else .error failure := by
    cases failure.concernsSchema <;> rfl
  simp only [schemaFindings, answer_tryCatch, answer_bind, SchemaStore.answer_load, consulted,
    rescue_eq]
  cases state.store.loaded tree kind.kind.tag with
  | error failure => rfl
  | ok outcome =>
      cases outcome with
      | none => rfl
      | some document =>
          simp only [answer_lift]
          cases evaluate document data <;> rfl

/-! ## The outcome -/

theorem answer_structured_object {tree : FileTree} {kind : DataKind} {content : Text}
    {state : ServiceState} {members : List (CodePoints × Json)}
    (read : Json.parse content = .ok (.object members)) :
    answer (structured tree kind content) state =
      match consulted tree state.store kind (.object members) with
      | .ok findings => .ok (findings ++ ⟨structuralErrors kind members, []⟩)
      | .error failure =>
          if failure.concernsSchema then
            .ok ⟨structuralErrors kind members, [uselessSchema failure]⟩
          else .error failure := by
  simp only [structured, read, answer_bind, answer_schemaFindings, structuralFindings_eq]
  cases consulted tree state.store kind (.object members) with
  | ok findings => rfl
  | error failure =>
      cases concerns : failure.concernsSchema <;> simp [concerns, Findings.append_mk]

theorem answer_structured_other {tree : FileTree} {kind : DataKind} {content : Text}
    {state : ServiceState} {findings : Findings}
    (other : ∀ members, Json.parse content ≠ .ok (.object members))
    (returned : answer (structured tree kind content) state = .ok findings) :
    ∃ issue, findings = ⟨[issue], []⟩ := by
  rw [structured] at returned
  split at returned
  · cases returned
  · exact ⟨_, (Except.ok.inj returned).symm⟩
  next members read => exact absurd read (other members)
  · exact ⟨_, (Except.ok.inj returned).symm⟩

/-- The findings of a check that ends.  Content that is no object has one error.  For an object
they are what the schema finds and what the object lacks; if the schema cannot be had or its
evaluation stops anywhere, one warning stands in the place of all that the schema finds. -/
theorem findings_of_structured {tree : FileTree} {kind : DataKind} {content : Text}
    {state : ServiceState} {findings : Findings}
    (returned : answer (structured tree kind content) state = .ok findings) :
    ((∀ members, Json.parse content ≠ .ok (.object members)) →
      ∃ issue, findings = ⟨[issue], []⟩) ∧
    ∀ members, Json.parse content = .ok (.object members) →
      (answer (SchemaStore.load tree kind.kind.tag) state = .ok none →
        findings = ⟨structuralErrors kind members, []⟩) ∧
      (∀ document found,
        answer (SchemaStore.load tree kind.kind.tag) state = .ok (some document) →
        Schema.violations (some document) [] document (.object members) = .ok found →
        findings = ⟨found.map violationIssue ++ structuralErrors kind members, []⟩) ∧
      (∀ failure, answer (SchemaStore.load tree kind.kind.tag) state = .error failure →
        findings = ⟨structuralErrors kind members, [uselessSchema failure]⟩) ∧
      (∀ document fault,
        answer (SchemaStore.load tree kind.kind.tag) state = .ok (some document) →
        Schema.violations (some document) [] document (.object members) = .error fault →
        findings = ⟨structuralErrors kind members, [uselessSchema (.evaluation fault)]⟩) := by
  refine ⟨fun other => answer_structured_other other returned, fun members read => ?_⟩
  rw [answer_structured_object read] at returned
  simp only [SchemaStore.answer_load]
  have degraded (failure : Failure)
      (failed : consulted tree state.store kind (.object members) = .error failure) :
      findings = ⟨structuralErrors kind members, [uselessSchema failure]⟩ := by
    simp only [failed] at returned
    split at returned
    · exact (Except.ok.inj returned).symm
    · cases returned
  refine ⟨fun absent => ?_, fun document found loaded evaluated => ?_, fun failure failed => ?_,
    fun document fault loaded stopped => ?_⟩
  · simp only [consulted, absent, Except.ok.injEq] at returned
    exact returned.symm
  · simp only [consulted, loaded, evaluate, evaluated, Except.ok.injEq,
      violationFindings_eq] at returned
    exact returned.symm
  · apply degraded
    simp only [consulted, failed]
  · apply degraded
    simp only [consulted, loaded, evaluate, stopped]

/-- A schema that requires a member and then asks for a length that is no number. -/
def haltingSchema : Json :=
  .object [
    (CodePoints.ofString "required", .array [.words "url"]),
    (CodePoints.ofString "properties", .object [
      (CodePoints.ofString "name", .object [
        (CodePoints.ofString "minLength", .words "1")])])]

/-- A service that has read the halting schema for identities. -/
def haltingState : ServiceState :=
  ⟨⟨⟨[], []⟩, [("identity-json", haltingSchema)]⟩, []⟩

private theorem violations_haltingSchema :
    Schema.violations (some haltingSchema) [] haltingSchema
      (.object [(CodePoints.ofString "name", .words "a")]) = .error (.notOrdered "str") := by
  rw [Schema.violations_eq_check]
  nth_rewrite 3 [haltingSchema]
  simp [Schema.check, Schema.checkAlternatives, Schema.checkInside, Schema.checkMembers,
    Schema.checkMember, Schema.typeViolation?, Schema.ownViolations, Schema.optionViolations,
    Schema.requiredKeys, Schema.properties, Schema.elements, Schema.requiredViolations,
    Schema.requiredViolation, Schema.lengthViolations, Schema.isBelow, Json.words, Json.quantity?,
    Json.kindName]

/-- The halting schema notices that `url` is absent before its evaluation stops.  The absence is
reported once, by the check that does not depend on the schema. -/
theorem findings_of_haltingSchema :
    answer (structured ⟨.directory [], ⟨[], []⟩, []⟩ .identity "\x7b\"name\": \"a\"\x7d".toList)
        haltingState =
      .ok ⟨[missingIssue "url", missingIssue "type", missingIssue "description"],
        [uselessSchema (.evaluation (.notOrdered "str"))]⟩ := by
  have read : Json.parse "\x7b\"name\": \"a\"\x7d".toList =
      .ok (.object [(CodePoints.ofString "name", .words "a")]) := by
    simp only [Json.words, CodePoints.ofString]
    repeat rewrite [String.toList_ofList]
    exact Json.parse_eq_of_alike (by decide +kernel)
  have loaded (tree : FileTree) :
      answer (SchemaStore.load tree "identity-json") haltingState = .ok (some haltingSchema) := by
    rfl
  have lacking : structuralErrors .identity [(CodePoints.ofString "name", .words "a")] =
      [missingIssue "url", missingIssue "type", missingIssue "description"] := by
    simp [structuralErrors, requiredMembers]
  obtain ⟨findings, returned⟩ : ∃ findings,
      answer (structured ⟨.directory [], ⟨[], []⟩, []⟩ .identity
        "\x7b\"name\": \"a\"\x7d".toList) haltingState = .ok findings := by
    rw [answer_structured_object read, consulted, ← SchemaStore.answer_load, DataKind.kind,
      Kind.tag, loaded]
    simp only [evaluate, violations_haltingSchema]
    exact ⟨_, rfl⟩
  obtain ⟨_, _, _, stopped⟩ := (findings_of_structured returned).2 _ read
  rw [returned, stopped _ _ (loaded _) violations_haltingSchema, lacking]

end Check
end DiscoveryFiles
