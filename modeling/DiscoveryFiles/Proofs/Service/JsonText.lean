import DiscoveryFiles.Proofs.Check.Wording
import DiscoveryFiles.Proofs.Json.Limit
import DiscoveryFiles.Proofs.Report.Finding
import DiscoveryFiles.Proofs.Service.Validation
import DiscoveryFiles.Proofs.Text.Position

/-!
# Files of data and the grammar of JSON

Whether a file of data is refused as no JSON, refused for its root or checked as an object depends
on what the grammar of JSON derives from its content.  A refusal names the place of the fault.
-/

namespace DiscoveryFiles

/-! ## Reading whole contents -/

namespace Json

theorem NestsBelow.mono {least most : Nat} {text : Text} (shallow : NestsBelow least text)
    (le : least ≤ most) : NestsBelow most text :=
  fun front before => Nat.lt_of_lt_of_le (shallow front before) le

private theorem message_malformed (problem : Problem) (place : Text.Position) :
    (Error.malformed problem place).message =
      problem.message ++ ": line " ++ toString place.line ++ " column " ++ toString place.column ++
        " (char " ++ toString place.index ++ ")" :=
  rfl

section Within

variable {content : Text} (shallow : NestsBelow (depthLimit + 1) content)
  (short : HasShortIntegers digitLimit content)

include shallow short

private theorem parse_eq_ok_iff {value : Json} :
    parse content = .ok value ↔ DocumentText content value := by
  rw [← document_eq_ok_iff shallow short, parse]
  cases Parser.document content <;> simp [Except.mapError]

/-- What the grammar does not derive is refused, with the position of a place. -/
theorem exists_parse_eq_malformed (refused : ¬∃ value, DocumentText content value) :
    ∃ problem place, Text.IsPlace '\n' content place ∧
      parse content = .error (.malformed problem place) := by
  cases read : Parser.document content with
  | ok value => exact absurd ⟨value, (document_eq_ok_iff shallow short).mp read⟩ refused
  | error failure =>
      obtain ⟨problem, rest, rfl⟩ := exists_malformed shallow short read
      refine ⟨problem, _, Text.isPlace_positionAt '\n' (Nat.sub_le content.length rest.length), ?_⟩
      rw [parse, read]
      rfl

end Within
end Json

namespace Service

open Check Json

/-! ## Kinds of errors -/

/-- Whether a check ends and reports an error with a message of some kind. -/
def Reports (outcome : Except Failure Result) (worded : String → Prop) : Prop :=
  ∃ result, outcome = .ok result ∧ ∃ issue ∈ result.findings.errors, worded issue.message

/-- Whether a message says that the content is no JSON. -/
def IsInvalidJson (message : String) : Prop :=
  "Invalid JSON: ".toList <+: message.toList

/-- Whether a message says that the content is JSON but no object. -/
def IsNoObject (message : String) : Prop :=
  message = "Root value MUST be a JSON object"

/-- Whether a message names a problem and the position of a place. -/
def NamesPlace (content : Text) (message : String) : Prop :=
  ∃ (problem : Json.Problem) (place : Text.Position), Text.IsPlace '\n' content place ∧
    message = "Invalid JSON: " ++ problem.message ++ ": line " ++ toString place.line ++
      " column " ++ toString place.column ++ " (char " ++ toString place.index ++ ")"

theorem IsInvalidJson.head {message : String} (invalid : IsInvalidJson message) :
    message.toList.head? = some 'I' := by
  obtain ⟨rest, message_eq⟩ := invalid
  rw [← message_eq]
  simp

private theorem isInvalidJson_append (message : String) :
    IsInvalidJson ("Invalid JSON: " ++ message) := by
  rw [IsInvalidJson, String.toList_append]
  exact List.prefix_append _ _

/-! ## What the check of a file of data answers -/

section Structured

variable {tree : FileTree} {kind : DataKind} {content : Text} {state : ServiceState}

private theorem answer_structured_of_malformed {problem : Json.Problem} {place : Text.Position}
    (read : parse content = .error (.malformed problem place)) :
    answer (structured tree kind content) state =
      .ok (.error ("Invalid JSON: " ++ (Error.malformed problem place).message)) := by
  rw [structured, read]
  rfl

private theorem answer_structured_of_other {value : Json} (read : parse content = .ok value)
    (other : ∀ members, value ≠ .object members) :
    answer (structured tree kind content) state =
      .ok (.error "Root value MUST be a JSON object") := by
  rw [structured, read]
  cases value with
  | object members => exact absurd rfl (other members)
  | _ => rfl

private theorem answer_structured_of_object {members : List (CodePoints × Json)}
    (read : parse content = .ok (.object members)) :
    answer (structured tree kind content) state =
      (answer (schemaFindings tree kind (.object members)) state).map
        (· ++ structuralFindings kind members) := by
  simp only [structured, read, answer_bind]
  cases answer (schemaFindings tree kind (.object members)) state <;> rfl

/-- The errors of a schema begin as such. -/
theorem head_of_mem_schemaFindings {data : Json} {found : Findings}
    (answered : answer (schemaFindings tree kind data) state = .ok found) :
    ∀ issue ∈ found.errors, issue.message.toList.head? = some 'S' := by
  have consulted_heads {findings : Findings}
      (consulted_eq : consulted tree state.store kind data = .ok findings) :
      ∀ issue ∈ findings.errors, issue.message.toList.head? = some 'S' := by
    rw [consulted] at consulted_eq
    split at consulted_eq
    · cases consulted_eq
    · cases consulted_eq
      exact fun issue member => (List.not_mem_nil member).elim
    · rw [evaluate] at consulted_eq
      split at consulted_eq
      · cases consulted_eq
        rw [violationFindings_eq]
        intro issue member
        obtain ⟨violation, -, rfl⟩ := List.mem_map.mp member
        exact head_violationIssue violation
      · cases consulted_eq
  rw [answer_schemaFindings] at answered
  split at answered
  next consulted_eq =>
    cases answered
    exact consulted_heads consulted_eq
  · split at answered
    · cases answered
      exact fun issue member => (List.not_mem_nil member).elim
    · cases answered

end Structured

section Content

variable {tree : FileTree} {file : String} {content : Text} {given : Option String}
  {state : ServiceState} {kind : DataKind} (tag_eq : tagFor? file given = some kind.kind.tag)

include tag_eq

private theorem answer_validateContent_data :
    answer (validateContent tree file content given) state =
      (answer (structured tree kind content) state).map (⟨file, kind.kind.tag, ·⟩) := by
  rw [answer_validateContent, tag_eq]
  simp only [answer_findingsForTag_data]

variable (shallow : NestsBelow (depthLimit + 1) content)
  (short : HasShortIntegers digitLimit content)

include shallow short

private theorem exists_answer_of_refused (refused : ¬∃ value, DocumentText content value) :
    ∃ problem place, Text.IsPlace '\n' content place ∧
      answer (validateContent tree file content given) state =
        .ok ⟨file, kind.kind.tag,
          .error ("Invalid JSON: " ++ (Error.malformed problem place).message)⟩ := by
  obtain ⟨problem, place, isPlace, read⟩ := exists_parse_eq_malformed shallow short refused
  refine ⟨problem, place, isPlace, ?_⟩
  rw [answer_validateContent_data tag_eq, answer_structured_of_malformed read]
  rfl

private theorem answer_of_other {value : Json} (written : DocumentText content value)
    (other : ∀ members, value ≠ .object members) :
    answer (validateContent tree file content given) state =
      .ok ⟨file, kind.kind.tag, .error "Root value MUST be a JSON object"⟩ := by
  rw [answer_validateContent_data tag_eq,
    answer_structured_of_other ((parse_eq_ok_iff shallow short).mpr written) other]
  rfl

/-- The errors for an object are those of the schema and those for what is missing. -/
theorem head_of_object {members : List (CodePoints × Json)}
    (written : DocumentText content (.object members)) {result : Result}
    (answered : answer (validateContent tree file content given) state = .ok result)
    {issue : Issue} (member : issue ∈ result.findings.errors) :
    issue.message.toList.head? = some 'S' ∨ issue.message.toList.head? = some 'P' := by
  rw [answer_validateContent_data tag_eq,
    answer_structured_of_object ((parse_eq_ok_iff shallow short).mpr written)] at answered
  cases found_eq : answer (schemaFindings tree kind (.object members)) state with
  | error failure =>
      rw [found_eq] at answered
      cases answered
  | ok found =>
      rw [found_eq] at answered
      cases answered
      simp only [Findings.errors_append, structuralFindings_eq, List.mem_append] at member
      rcases member with inSchema | inStructure
      · exact .inl (head_of_mem_schemaFindings found_eq issue inSchema)
      · exact .inr (head_of_mem_structuralErrors inStructure)

/-- The first letter of an error tells what the grammar makes of the content. -/
theorem head_cases {result : Result}
    (answered : answer (validateContent tree file content given) state = .ok result)
    {issue : Issue} (member : issue ∈ result.findings.errors) :
    (issue.message.toList.head? = some 'I' ∧ (¬∃ value, DocumentText content value) ∧
        NamesPlace content issue.message) ∨
      (issue.message.toList.head? = some 'R' ∧
        ∃ value, DocumentText content value ∧ ∀ members, value ≠ .object members) ∨
      issue.message.toList.head? = some 'S' ∨ issue.message.toList.head? = some 'P' := by
  by_cases derivable : ∃ value, DocumentText content value
  · obtain ⟨value, written⟩ := derivable
    by_cases other : ∀ members, value ≠ .object members
    · rw [answer_of_other tag_eq shallow short written other] at answered
      cases answered
      obtain rfl := List.mem_singleton.mp member
      exact .inr (.inl ⟨rfl, value, written, other⟩)
    · push Not at other
      obtain ⟨members, rfl⟩ := other
      exact .inr (.inr (head_of_object tag_eq shallow short written answered member))
  · obtain ⟨problem, place, isPlace, refused⟩ :=
      exists_answer_of_refused tag_eq shallow short derivable
    obtain rfl := Except.ok.inj (answered.symm.trans refused)
    rw [Findings.errors_error, List.mem_singleton] at member
    subst member
    refine .inl ⟨(isInvalidJson_append _).head, derivable, problem, place, isPlace, ?_⟩
    simp only [message_malformed, String.append_assoc]

end Content

/-! ## The grammar decides -/

/-- A file of data that nests less than 150 deep and has no integer literal of more than 4300 digits
is refused as no JSON exactly if the grammar does not derive its content, and for its root exactly
if the grammar derives a value that is no object.  Otherwise the one object that the grammar derives
is checked.  A refusal as no JSON names a place of the content. -/
theorem validateContent_follows_grammar {tree : FileTree} {file : String} {content : Text}
    {given : Option String} {state : ServiceState} {kind : DataKind}
    (tag_eq : tagFor? file given = some kind.kind.tag) (shallow : NestsBelow 150 content)
    (short : HasShortIntegers 4300 content) :
    (Reports (answer (validateContent tree file content given) state) IsInvalidJson ↔
      ¬∃ value, DocumentText content value) ∧
    (Reports (answer (validateContent tree file content given) state) IsNoObject ↔
      ∃ value, DocumentText content value ∧ ∀ members, value ≠ .object members) ∧
    (∀ members, DocumentText content (.object members) →
      (∀ value, DocumentText content value → value = .object members) ∧
      answer (validateContent tree file content given) state =
        (answer (schemaFindings tree kind (.object members)) state).map fun found =>
          ⟨file, kind.kind.tag, found ++ structuralFindings kind members⟩) ∧
    (∀ result, answer (validateContent tree file content given) state = .ok result →
      ∀ issue ∈ result.findings.errors, IsInvalidJson issue.message →
        NamesPlace content issue.message) := by
  have shallow : NestsBelow (depthLimit + 1) content := shallow.mono (by decide)
  refine ⟨⟨?_, fun refused => ?_⟩, ⟨?_, ?_⟩, fun members written => ⟨fun value other => ?_, ?_⟩,
    fun result answered issue member invalid => ?_⟩
  · rintro ⟨result, answered, issue, member, invalid⟩
    have cases_eq := head_cases tag_eq shallow short answered member
    simp only [invalid.head, Option.some.injEq, Char.reduceEq, false_and, or_false, true_and]
      at cases_eq
    exact cases_eq.1
  · obtain ⟨problem, place, -, answered⟩ :=
      exists_answer_of_refused tag_eq shallow short refused
    exact ⟨_, answered, _, List.mem_singleton_self _, isInvalidJson_append _⟩
  · rintro ⟨result, answered, issue, member, root⟩
    have head : issue.message.toList.head? = some 'R' := by
      rw [root]
      rfl
    have cases_eq := head_cases tag_eq shallow short answered member
    simp only [head, Option.some.injEq, Char.reduceEq, false_and, or_false, true_and, false_or]
      at cases_eq
    exact cases_eq
  · rintro ⟨value, written, other⟩
    exact ⟨_, answer_of_other tag_eq shallow short written other, _, List.mem_singleton_self _, rfl⟩
  · exact Except.ok.inj (((parse_eq_ok_iff shallow short).mpr other).symm.trans
      ((parse_eq_ok_iff shallow short).mpr written))
  · rw [answer_validateContent_data tag_eq,
      answer_structured_of_object ((parse_eq_ok_iff shallow short).mpr written)]
    cases answer (schemaFindings tree kind (.object members)) state <;> rfl
  · have cases_eq := head_cases tag_eq shallow short answered member
    simp only [invalid.head, Option.some.injEq, Char.reduceEq, false_and, or_false, true_and]
      at cases_eq
    exact cases_eq.2

/-- A text with blanks, a name that is given twice, and a character in two halves. -/
def repeatedName : Text :=
  "\t\x7b\"name\": [1.5e3],\n \"name\": \"\\ud83d\\ude00\"\x7d ".toList

private theorem parse_repeatedName :
    parse repeatedName = .ok (.object [(CodePoints.ofString "name", .words "😀")]) := by
  unfold repeatedName
  simp only [Json.words, CodePoints.ofString]
  repeat rewrite [String.toList_ofList]
  exact Json.parse_eq_of_alike (by decide +kernel)

theorem validateContent_follows_grammar_repeatedName :
    tagFor? "data" (some "identity-json") = some DataKind.identity.kind.tag ∧
    NestsBelow 150 repeatedName ∧ HasShortIntegers 4300 repeatedName ∧
    DocumentText repeatedName (.object [(CodePoints.ofString "name", .words "😀")]) ∧
    answer (validateContent ⟨.directory [], ⟨[], []⟩, []⟩ "data" repeatedName
        (some "identity-json")) ⟨⟨⟨[], []⟩, []⟩, []⟩ =
      .ok ⟨"data", "identity-json",
        ⟨[missingIssue "url", missingIssue "type", missingIssue "description"], []⟩⟩ := by
  have tag_eq : tagFor? "data" (some "identity-json") = some DataKind.identity.kind.tag := rfl
  have length_lt : repeatedName.length < 150 := by decide +kernel
  have shallow : NestsBelow 150 repeatedName := nestsBelow_of_length_lt length_lt
  have short : HasShortIntegers 4300 repeatedName :=
    hasShortIntegers_of_length_le (Nat.le_of_lt (Nat.lt_trans length_lt (by decide)))
  have written : DocumentText repeatedName (.object [(CodePoints.ofString "name", .words "😀")]) :=
    (parse_eq_ok_iff (shallow.mono (by decide)) short).mp parse_repeatedName
  have absent (data : Json) :
      answer (schemaFindings ⟨.directory [], ⟨[], []⟩, []⟩ .identity data) ⟨⟨⟨[], []⟩, []⟩, []⟩ =
        .ok .none := by
    rw [answer_schemaFindings]
    rfl
  have lacking : structuralErrors .identity [(CodePoints.ofString "name", .words "😀")] =
      [missingIssue "url", missingIssue "type", missingIssue "description"] := by
    simp [structuralErrors, requiredMembers]
  refine ⟨tag_eq, shallow, short, written, ?_⟩
  obtain ⟨-, -, object, -⟩ := validateContent_follows_grammar tag_eq shallow short
  rw [(object _ written).2, absent, structuralFindings_eq, lacking]
  rfl

end Service
end DiscoveryFiles
