import DiscoveryFiles.Proofs.Check.Structured
import DiscoveryFiles.Proofs.Json.Numeral
import DiscoveryFiles.Proofs.Service.Validation

/-!
# What ends a check without a result

Checking one file ends without a result only for files of data.  Either the file holds an integer
with too many digits, or its schema has a fault that is not taken for one, or the schema cannot be
looked for.
-/

namespace DiscoveryFiles

/-- A fault that nobody expects of a schema. -/
def Schema.Fault.Unforeseen : Schema.Fault → Prop
  | countTooLarge | countTooLong _ | opposedAlphabets | keyNotText => True
  | _ => False

private theorem concernsSchema_evaluation_iff (fault : Schema.Fault) :
    (Failure.evaluation fault).concernsSchema = false ↔ fault.Unforeseen := by
  cases fault <;> simp [Failure.concernsSchema, Schema.Fault.Unforeseen]

namespace Service

open Check

/-- What ends the check of a file of data without a result. -/
inductive Escapes (tree : FileTree) (state : ServiceState) (kind : DataKind) (content : Text) :
    Failure → Prop where
  /-- An integer in the file has too many digits. -/
  | digits {count : Nat} (read : Json.parse content = .error (.tooManyDigits count)) :
      Escapes tree state kind content (.json (.tooManyDigits count))
  /-- The schema has a fault that nobody expects. -/
  | fault {members : List (CodePoints × Json)} {document : Json} {fault : Schema.Fault}
      (read : Json.parse content = .ok (.object members))
      (loaded : answer (SchemaStore.load tree kind.kind.tag) state = .ok (some document))
      (stopped : Schema.violations (some document) [] document (.object members) = .error fault)
      (unforeseen : fault.Unforeseen) :
      Escapes tree state kind content (.evaluation fault)
  /-- The path of the schema is too long to look at. -/
  | path {members : List (CodePoints × Json)}
      (read : Json.parse content = .ok (.object members))
      (loaded : answer (SchemaStore.load tree kind.kind.tag) state = .error .nameTooLong) :
      Escapes tree state kind content .nameTooLong

section

variable {tree : FileTree} {state : ServiceState} {content : Text} {failure : Failure}

/-- What keeps a schema from being consulted is taken for a fault of the schema, apart from the two
last ways to escape. -/
theorem consulted_eq_error_iff {kind : DataKind} {members : List (CodePoints × Json)} :
    consulted tree state.store kind (.object members) = .error failure ∧
        failure.concernsSchema = false ↔
      answer (SchemaStore.load tree kind.kind.tag) state = .error .nameTooLong ∧
          failure = .nameTooLong ∨
        ∃ document fault,
          answer (SchemaStore.load tree kind.kind.tag) state = .ok (some document) ∧
          Schema.violations (some document) [] document (.object members) = .error fault ∧
          fault.Unforeseen ∧ failure = .evaluation fault := by
  rw [SchemaStore.answer_load, consulted]
  cases loaded_eq : state.store.loaded tree kind.kind.tag with
  | error other =>
      constructor
      · rintro ⟨same, unconcerned⟩
        obtain rfl := Except.error.inj same
        by_cases invisible : other = .nameTooLong
        · subst invisible
          exact .inl ⟨rfl, rfl⟩
        · have concerned := SchemaStore.concernsSchema_of_loaded loaded_eq invisible
          simp [concerned] at unconcerned
      · rintro (⟨same, rfl⟩ | ⟨_, _, absurd, _⟩)
        · obtain rfl := Except.error.inj same
          exact ⟨rfl, rfl⟩
        · cases absurd
  | ok outcome =>
      cases outcome with
      | none => simp
      | some document =>
          simp only [evaluate]
          cases evaluated : Schema.violations (some document) [] document (.object members) with
          | ok found => simp_all
          | error fault =>
              constructor
              · rintro ⟨same, unconcerned⟩
                obtain rfl := Except.error.inj same
                exact .inr ⟨document, fault, rfl, evaluated,
                  (concernsSchema_evaluation_iff fault).mp unconcerned, rfl⟩
              · rintro (⟨absurd, _⟩ | ⟨other, _, same, stopped, unforeseen, rfl⟩)
                · cases absurd
                · obtain rfl := Option.some.inj (Except.ok.inj same)
                  rw [evaluated] at stopped
                  obtain rfl := Except.error.inj stopped
                  exact ⟨rfl, (concernsSchema_evaluation_iff fault).mpr unforeseen⟩

private theorem answer_structured_object_eq_error_iff {kind : DataKind}
    {members : List (CodePoints × Json)} (read : Json.parse content = .ok (.object members)) :
    answer (structured tree kind content) state = .error failure ↔
      consulted tree state.store kind (.object members) = .error failure ∧
        failure.concernsSchema = false := by
  rw [answer_structured_object read]
  cases consulted tree state.store kind (.object members) with
  | ok findings => simp
  | error other =>
      cases concerns : other.concernsSchema with
      | true =>
          simp only [concerns, if_true, reduceCtorEq, Except.error.injEq, false_iff, not_and,
            Bool.not_eq_false]
          rintro rfl
          exact concerns
      | false =>
          simp only [concerns, Bool.false_eq_true, if_false, Except.error.injEq, iff_self_and]
          rintro rfl
          exact concerns

private theorem answer_structured_eq_error_iff {kind : DataKind} :
    answer (structured tree kind content) state = .error failure ↔
      Escapes tree state kind content failure := by
  constructor
  · intro failed
    cases read : Json.parse content with
    | error error =>
        cases error with
        | tooManyDigits count =>
            simp only [structured, read, answer_throw, Except.error.injEq] at failed
            subst failed
            exact .digits read
        | _ => simp [structured, read] at failed
    | ok value =>
        cases value with
        | object members =>
            rw [answer_structured_object_eq_error_iff read, consulted_eq_error_iff] at failed
            rcases failed with ⟨loaded, rfl⟩ | ⟨document, fault, loaded, stopped, unforeseen, rfl⟩
            · exact .path read loaded
            · exact .fault read loaded stopped unforeseen
        | _ => simp [structured, read] at failed
  · intro escapes
    cases escapes with
    | digits read => simp [structured, read]
    | fault read loaded stopped unforeseen =>
        rw [answer_structured_object_eq_error_iff read, consulted_eq_error_iff]
        exact .inr ⟨_, _, loaded, stopped, unforeseen, rfl⟩
    | path read loaded =>
        rw [answer_structured_object_eq_error_iff read, consulted_eq_error_iff]
        exact .inl ⟨loaded, rfl⟩

private theorem answer_findingsFor_eq_error_iff {kind : Kind} :
    answer (findingsFor tree content kind) state = .error failure ↔
      ∃ dataKind : DataKind, dataKind.kind = kind ∧
        Escapes tree state dataKind content failure := by
  cases kind with
  | aiJson =>
      rw [findingsFor, answer_structured_eq_error_iff]
      constructor
      · intro escapes
        exact ⟨.policy, rfl, escapes⟩
      · rintro ⟨_ | _, same, escapes⟩
        · exact escapes
        · cases same
  | identityJson =>
      rw [findingsFor, answer_structured_eq_error_iff]
      constructor
      · intro escapes
        exact ⟨.identity, rfl, escapes⟩
      · rintro ⟨_ | _, same, escapes⟩
        · cases same
        · exact escapes
  | _ =>
      simp only [findingsFor, answer_pure, reduceCtorEq, false_iff]
      rintro ⟨_ | _, same, _⟩ <;> cases same

theorem answer_validateContent_eq_error_iff_findings {file : String} {given : Option String} :
    answer (validateContent tree file content given) state = .error failure ↔
      ∃ tag, tagFor? file given = some tag ∧
        answer (findingsForTag tree content tag) state = .error failure := by
  rw [answer_validateContent]
  cases tagFor? file given with
  | none => simp
  | some tag =>
      simp only [Option.some.injEq, exists_eq_left']
      cases answer (findingsForTag tree content tag) state <;> simp [Except.map]

theorem answer_findingsForTag_eq_error_iff {tag : String} :
    answer (findingsForTag tree content tag) state = .error failure ↔
      ∃ kind : DataKind, kind.kind.tag = tag ∧ Escapes tree state kind content failure := by
  constructor
  · intro failed
    rw [findingsForTag] at failed
    cases found : Kind.ofTag? tag with
    | none => simp [found] at failed
    | some known =>
        simp only [found, answer_findingsFor_eq_error_iff] at failed
        obtain ⟨kind, rfl, escapes⟩ := failed
        exact ⟨kind, by simpa using List.find?_some found, escapes⟩
  · rintro ⟨kind, rfl, escapes⟩
    simp only [findingsForTag, Kind.ofTag?_tag, answer_findingsFor_eq_error_iff]
    exact ⟨kind, rfl, escapes⟩

/-- Checking one file under its name and a given type ends without a result exactly when it is
checked as a file of data and one of the three ways to escape is open. -/
theorem validateContent_eq_error_iff {file : String} {given : Option String} :
    answer (validateContent tree file content given) state = .error failure ↔
      ∃ kind : DataKind, tagFor? file given = some kind.kind.tag ∧
        Escapes tree state kind content failure := by
  rw [answer_validateContent_eq_error_iff_findings]
  constructor
  · rintro ⟨tag, tag_eq, failed⟩
    obtain ⟨kind, rfl, escapes⟩ := answer_findingsForTag_eq_error_iff.mp failed
    exact ⟨kind, tag_eq, escapes⟩
  · rintro ⟨kind, tag_eq, escapes⟩
    exact ⟨_, tag_eq, answer_findingsForTag_eq_error_iff.mpr ⟨kind, rfl, escapes⟩⟩

end

/-- A policy that is one integer of too many digits has no result. -/
theorem validateContent_manyOnes :
    answer (validateContent ⟨.directory [], ⟨[], []⟩, []⟩ "ai.json" (List.replicate 4301 '1') none)
        (.fresh ⟨[], []⟩) =
      .error (.json (.tooManyDigits 4301)) := by
  have tag_eq : tagFor? "ai.json" none = some DataKind.policy.kind.tag := by
    cbv
  have writes : Json.Parser.WritesInteger (List.replicate 4301 '1') :=
    ⟨fun c member => by rw [List.eq_of_mem_replicate member]; rfl, '1',
      List.replicate 4300 '1', rfl, by decide⟩
  have read : Json.parse (List.replicate 4301 '1') = .error (.tooManyDigits 4301) := by
    have refused := Json.Parser.parse_of_digitLimit_lt writes
    rw [List.length_replicate] at refused
    exact refused (by decide)
  rw [answer_validateContent_eq_error_iff_findings]
  exact ⟨_, tag_eq, answer_findingsForTag_eq_error_iff.mpr ⟨.policy, rfl, .digits read⟩⟩

end Service
end DiscoveryFiles
