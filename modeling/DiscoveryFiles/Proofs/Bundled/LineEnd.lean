import DiscoveryFiles.Proofs.Bundled.Identity
import DiscoveryFiles.Proofs.Bundled.Policy

/-!
# Line feeds behind mail addresses and versions

The patterns for mail addresses and versions are anchored at the end of the last line, which a line
feed may still follow.  The strings that they let pass are those that they were written for, and
the same with one line feed behind them.
-/

namespace DiscoveryFiles
namespace Bundled

open Check Pattern Schema Service

/-! ## Strings -/

/-- A string is without blanks and has a single at sign, with something on both sides of it. -/
structure IsMailAddress (points : CodePoints) : Prop where
  /-- No character is blank. -/
  unblank : ∀ point ∈ points, Text.isBlank point.number = false
  /-- There is one at sign, neither first nor last. -/
  divided : ∃ before behind, points = before ++ .scalar '@' :: behind ∧ before ≠ [] ∧
    behind ≠ [] ∧ CodePoint.scalar '@' ∉ before ++ behind

/-- A string consists of digits of ASCII and full stops. -/
def IsDotted (points : CodePoints) : Prop :=
  ∀ point ∈ points, IsDigit point ∨ point = .scalar '.'

/-- A string ends in a line feed. -/
def EndsInFeed (points : CodePoints) : Prop :=
  ∃ front, points = front ++ [.scalar '\n']

/-- A string has a property unless it ends in a line feed, and then what comes before has it. -/
structure HoldsBarringFeed (property : CodePoints → Prop) (points : CodePoints) : Prop where
  /-- The line feed at the end is all that is in the way of the property. -/
  holds_iff : property points ↔ ¬ EndsInFeed points
  /-- What comes before it has the property. -/
  front : ∀ front, points = front ++ [.scalar '\n'] → property front

private theorem IsMailAddress.not_endsInFeed {points : CodePoints}
    (address : IsMailAddress points) :
    ¬ EndsInFeed points := by
  rintro ⟨front, rfl⟩
  have blank := address.unblank (.scalar '\n') (by simp)
  exact absurd blank (by decide)

private theorem IsDotted.not_endsInFeed {points : CodePoints} (dotted : IsDotted points) :
    ¬ EndsInFeed points := by
  rintro ⟨front, rfl⟩
  have last := dotted (.scalar '\n') (by simp)
  exact absurd last (by simp [IsDigit, CodePoint.number])

/-- A string with a property that no line feed at the end allows, to which one may be added. -/
theorem holdsBarringFeed {property : CodePoints → Prop} {word points : CodePoints}
    (excludes : ∀ points, property points → ¬ EndsInFeed points) (holds : property word)
    (whole : points = word ∨ points = word ++ [.scalar '\n']) :
    HoldsBarringFeed property points := by
  rcases whole with rfl | rfl
  · refine ⟨iff_of_true holds (excludes _ holds), fun front points_eq => ?_⟩
    exact absurd ⟨front, points_eq⟩ (excludes _ holds)
  · refine ⟨iff_of_false (fun added => excludes _ added ⟨word, rfl⟩) (not_not.mpr ⟨word, rfl⟩), ?_⟩
    intro front points_eq
    obtain rfl := List.append_cancel_right points_eq
    exact holds

/-! ## Words of the two patterns -/

/-- The class of all characters but blanks and the at sign. -/
def mailClass : CharClass :=
  ⟨true, .strict, [.range 0x40 0x40, .having .blank]⟩

private theorem mailClass_contains_iff {point : CodePoint} :
    mailClass.contains point = true ↔
      point ≠ .scalar '@' ∧ Text.isBlank point.number = false := by
  have same : point.number = 0x40 ↔ point = .scalar '@' := by
    rw [← single_contains_iff]
    simp [CharClass.single, CharClass.contains, ClassPart.contains]
    omega
  rw [ne_eq, ← same]
  simp [mailClass, CharClass.contains, ClassPart.contains, Property.holds]

/-- The pattern for one side of a mail address. -/
def mailSide : Pattern :=
  .repeated .greedy (.one mailClass) 1 none

private theorem stretch_mail (text : Array CodePoint) :
    mail.Stretch text =
      (sequence (anchor .start) (sequence (sequence mailSide (sequence (letter '@') mailSide))
        (anchor .lastLineEnd))).Stretch text := by
  refine stretch_sequence_congr _ ?_
  rw [← stretch_sequence_assoc]
  refine stretch_sequence_congr _ ?_
  rw [← stretch_sequence_assoc]
  rfl

private theorem mailSide_hasWord_iff {word : CodePoints} :
    mailSide.HasWord word ↔
      word ≠ [] ∧ ∀ point ∈ word, point ≠ .scalar '@' ∧ Text.isBlank point.number = false := by
  simp only [mailSide, repeated_one_hasWord_iff, mailClass_contains_iff, reduceCtorEq,
    false_implies, implies_true, true_and, Nat.succ_le_iff, List.length_pos_iff]

private theorem mail_hasWord_iff {word : CodePoints} :
    (sequence mailSide (sequence (letter '@') mailSide)).HasWord word ↔ IsMailAddress word := by
  simp only [sequence_hasWord_iff, mailSide_hasWord_iff, letter_hasWord_iff]
  constructor
  · rintro ⟨before, _, rfl, ⟨named, before_fits⟩, _, behind, rfl, rfl, placed, behind_fits⟩
    refine ⟨?_, before, behind, rfl, named, placed, ?_⟩
    · simp only [List.singleton_append, List.forall_mem_append, List.forall_mem_cons]
      exact ⟨fun point member => (before_fits point member).2, by decide,
        fun point member => (behind_fits point member).2⟩
    · rw [List.mem_append]
      rintro (member | member)
      · exact (before_fits _ member).1 rfl
      · exact (behind_fits _ member).1 rfl
  · rintro ⟨unblank, before, behind, rfl, named, placed, single⟩
    simp only [List.forall_mem_append, List.forall_mem_cons] at unblank
    obtain ⟨before_unblank, -, behind_unblank⟩ := unblank
    rw [List.mem_append, not_or] at single
    refine ⟨before, _, rfl, ⟨named, fun point member => ⟨?_, before_unblank point member⟩⟩, _,
      behind, rfl, rfl, placed, fun point member => ⟨?_, behind_unblank point member⟩⟩
    · rintro rfl
      exact single.1 member
    · rintro rfl
      exact single.2 member

private theorem matches_mail_iff (points : CodePoints) :
    Matches mailPattern points ↔
      ∃ word, IsMailAddress word ∧ (points = word ∨ points = word ++ [.scalar '\n']) := by
  rw [Matches, parse_mail]
  simp only [Except.ok.injEq, exists_eq_left', stretch_mail]
  rw [stretch_to_lastLineEnd_iff (by decide)]
  simp only [mail_hasWord_iff]

/-- The pattern for a number in a version. -/
def versionNumber : Pattern :=
  .repeated .greedy (.one digitClass) 1 none

/-- The pattern for the third number of a version, which may be absent. -/
def patchNumber : Pattern :=
  .repeated .greedy (.group (some 1) (.sequence (letter '.') versionNumber)) 0 (some 1)

private theorem stretch_version (text : Array CodePoint) :
    version.Stretch text =
      (sequence (anchor .start) (sequence
        (sequence versionNumber (sequence (letter '.') (sequence versionNumber patchNumber)))
        (anchor .lastLineEnd))).Stretch text := by
  refine stretch_sequence_congr _ ?_
  rw [← stretch_sequence_assoc]
  refine stretch_sequence_congr _ ?_
  rw [← stretch_sequence_assoc]
  refine stretch_sequence_congr _ ?_
  rw [← stretch_sequence_assoc]
  rfl

private theorem isDotted_of_version_hasWord {word : CodePoints}
    (isWord : (sequence versionNumber
      (sequence (letter '.') (sequence versionNumber patchNumber))).HasWord word) :
    IsDotted word := by
  have digits {word : CodePoints} (isWord : versionNumber.HasWord word) : IsDotted word := by
    obtain ⟨-, -, held⟩ := repeated_one_hasWord_iff.mp isWord
    exact fun point member => .inl (digitClass_contains_iff.mp (held point member))
  have dot : IsDotted [.scalar '.'] := by simp [IsDotted]
  have append {word other : CodePoints} (here : IsDotted word) (after : IsDotted other) :
      IsDotted (word ++ other) := List.forall_mem_append.mpr ⟨here, after⟩
  simp only [sequence_hasWord_iff, letter_hasWord_iff, patchNumber, optional_hasWord_iff] at isWord
  obtain ⟨_, _, rfl, major, _, _, rfl, rfl, _, _, rfl, minor, rfl | patch⟩ := isWord
  · exact append (digits major) (append dot (append (digits minor) (by simp [IsDotted])))
  · obtain ⟨_, _, rfl, stop, last⟩ := patch
    obtain rfl := letter_hasWord_iff.mp stop
    exact append (digits major) (append dot (append (digits minor) (append dot (digits last))))

private theorem exists_of_matches_version {points : CodePoints}
    (found : Matches versionPattern points) :
    ∃ word, IsDotted word ∧ (points = word ∨ points = word ++ [.scalar '\n']) := by
  rw [Matches, parse_version] at found
  simp only [Except.ok.injEq, exists_eq_left', stretch_version] at found
  rw [stretch_to_lastLineEnd_iff (by decide)] at found
  obtain ⟨word, isWord, whole⟩ := found
  exact ⟨word, isDotted_of_version_hasWord isWord, whole⟩

/-! ## Contents without errors -/

/-- A value is a string with a property, but for a line feed at its end. -/
def IsStringBarringFeed (property : CodePoints → Prop) (data : Json) : Prop :=
  ∃ points, data = .string points ∧ HoldsBarringFeed property points

private theorem isStringBarringFeed_of_fits_mail {data : Json} (fits : Fits mailPattern data) :
    IsStringBarringFeed IsMailAddress data := by
  obtain ⟨points, rfl, found⟩ := fits
  obtain ⟨word, address, whole⟩ := (matches_mail_iff points).mp found
  exact ⟨points, rfl,
    holdsBarringFeed (fun _ address => address.not_endsInFeed) address whole⟩

private theorem isStringBarringFeed_of_fits_version {data : Json}
    (fits : Fits versionPattern data) :
    IsStringBarringFeed IsDotted data := by
  obtain ⟨points, rfl, found⟩ := fits
  obtain ⟨word, dotted, whole⟩ := exists_of_matches_version found
  exact ⟨points, rfl, holdsBarringFeed (fun _ dotted => dotted.not_endsInFeed) dotted whole⟩

/-- In an object that a bundled schema accepts, a contact is an object whose mail address, if it has
one, is what its pattern was written for, but for a line feed at its end; and so is the version of a
policy. -/
structure IsWrittenFor (kind : DataKind) (members : List (CodePoints × Json)) : Prop where
  /-- The mail address of the contact. -/
  email : MayHave members "contact" fun contact =>
    ∃ inner, contact = .object inner ∧ MayHave inner "email" (IsStringBarringFeed IsMailAddress)
  /-- The version of a policy. -/
  version : kind = .policy → MayHave members "version" (IsStringBarringFeed IsDotted)

private theorem IsPolicy.isWrittenFor {members : List (CodePoints × Json)}
    (policy : IsPolicy members) :
    IsWrittenFor .policy members where
  email contact found := by
    obtain ⟨inner, rfl, email, -⟩ := policy.contact contact found
    exact ⟨inner, rfl, fun address given => isStringBarringFeed_of_fits_mail (email address given)⟩
  version _ version found := isStringBarringFeed_of_fits_version (policy.version version found)

private theorem IsIdentity.isWrittenFor {members : List (CodePoints × Json)}
    (identity : IsIdentity members) : IsWrittenFor .identity members where
  email contact found := by
    obtain ⟨inner, rfl, email, -⟩ := identity.contact contact found
    exact ⟨inner, rfl, fun address given => isStringBarringFeed_of_fits_mail (email address given)⟩
  version other := by cases other

section Checking

variable {tree : FileTree} {state : ServiceState} {kind : DataKind}

/-- In content that is checked without errors under a bundled schema, mail addresses and versions
are what their patterns were written for exactly when they do not end in a line feed. -/
theorem isWrittenFor_of_validateContent {file : String} {content : Text} {given : Option String}
    {result : Result} (serves : Serves tree state kind)
    (asData : tagFor? file given = some kind.kind.tag)
    (answered : answer (validateContent tree file content given) state = .ok result)
    (faultless : result.findings.errors = []) :
    ∃ members, Json.parse content = .ok (.object members) ∧ IsWrittenFor kind members := by
  obtain ⟨findings, checked, rfl⟩ := (answer_validateContent_data_iff asData).mp answered
  cases kind with
  | policy =>
      obtain ⟨⟨members, read, policy⟩, -⟩ :=
        describes_policy.of_structured serves checked faultless
      exact ⟨members, read, policy.isWrittenFor⟩
  | identity =>
      obtain ⟨⟨members, read, identity⟩, -⟩ :=
        describes_identity.of_structured serves checked faultless
      exact ⟨members, read, identity.isWrittenFor⟩

/-- A policy with a line feed behind its version, and one behind the mail address of its contact. -/
def feedPolicy : List (CodePoints × Json) :=
  [(CodePoints.ofString "name", .words "a"), (CodePoints.ofString "url", .words "http://b"),
    (CodePoints.ofString "permissions", .object []),
    (CodePoints.ofString "restrictions", .object []),
    (CodePoints.ofString "version", .words "1.0\n"),
    (CodePoints.ofString "contact", .object [(CodePoints.ofString "email", .words "c@d\n")])]

/-- The text of the policy. -/
def feedPolicyText : Text :=
  ("\x7b\"name\": \"a\", \"url\": \"http://b\", \"permissions\": \x7b\x7d, " ++
    "\"restrictions\": \x7b\x7d, \"version\": \"1.0\\n\", " ++
    "\"contact\": \x7b\"email\": \"c@d\\n\"\x7d\x7d").toList

private theorem isPolicy_feedPolicy : IsPolicy feedPolicy := by
  have web : IsWebAddress (CodePoints.ofString "http://b") :=
    .inl (by simp [CodePoints.ofString, CodePoints.ofText])
  have named : IsFilled (.words "a") := ⟨_, rfl, by simp [CodePoints.ofString, CodePoints.ofText]⟩
  have rules : IsRules (.object []) := .inr ⟨_, rfl⟩
  have numbered : Fits versionPattern (.words "1.0\n") :=
    ⟨_, rfl, (matches_iff_occursIn parse_version (by decide) _).mpr (by decide +kernel)⟩
  have mailed : Fits mailPattern (.words "c@d\n") :=
    ⟨_, rfl, (matches_iff_occursIn parse_mail (by decide) _).mpr (by decide +kernel)⟩
  constructor
  case name => exact ⟨_, by simp [feedPolicy], named⟩
  case url => exact ⟨.words "http://b", by simp [feedPolicy], _, rfl, web⟩
  case permissions => exact ⟨_, by simp [feedPolicy], rules⟩
  case restrictions => exact ⟨_, by simp [feedPolicy], rules⟩
  case version => simpa [MayHave, feedPolicy] using numbered
  case contact => simpa [MayHave, feedPolicy, IsContact] using mailed
  all_goals simp [MayHave, feedPolicy]

private theorem parse_feedPolicyText : Json.parse feedPolicyText = .ok (.object feedPolicy) := by
  unfold feedPolicyText feedPolicy Json.words CodePoints.ofString
  repeat rewrite [String.toList_append]
  repeat rewrite [String.toList_ofList]
  exact Json.parse_eq_of_alike (by decide +kernel)

/-- The policy is checked without errors. -/
theorem answer_feedPolicy {file : String}
    (asPolicy : tagFor? file none = some DataKind.policy.kind.tag) :
    ∃ result, answer (validateContent bundledTree file feedPolicyText none)
        (.fresh ⟨['/'], []⟩) = .ok result ∧ result.findings.errors = [] := by
  have checked := describes_policy.answer_structured_of_property (serves_bundledTree .policy)
    parse_feedPolicyText isPolicy_feedPolicy
  refine ⟨⟨file, DataKind.policy.kind.tag, ⟨[], []⟩⟩,
    (answer_validateContent_data_iff asPolicy).mpr ?_, rfl⟩
  exact ⟨_, checked, rfl⟩

/-- What the policy holds is what it should be but for the line feeds. -/
theorem isWrittenFor_feedPolicy :
    ∃ result, answer (validateContent bundledTree "ai.json" feedPolicyText none)
        (.fresh ⟨['/'], []⟩) = .ok result ∧ result.findings.errors = [] ∧
      ∃ members, Json.parse feedPolicyText = .ok (.object members) ∧
        IsWrittenFor .policy members := by
  have asPolicy : tagFor? "ai.json" none = some DataKind.policy.kind.tag := by
    cbv
  obtain ⟨result, answered, faultless⟩ := answer_feedPolicy asPolicy
  exact ⟨result, answered, faultless,
    isWrittenFor_of_validateContent (serves_bundledTree .policy) asPolicy answered faultless⟩

/-- A policy without errors may have a version that does not consist of digits and full stops, and a
mail address with a blank. -/
theorem feedPolicy_not_excluded :
    ∃ result members contact version email,
      answer (validateContent bundledTree "ai.json" feedPolicyText none) (.fresh ⟨['/'], []⟩) =
        .ok result ∧ result.findings.errors = [] ∧
      Json.parse feedPolicyText = .ok (.object members) ∧
      Json.member? (CodePoints.ofString "version") members = some (.string version) ∧
      ¬ IsDotted version ∧
      Json.member? (CodePoints.ofString "contact") members = some (.object contact) ∧
      Json.member? (CodePoints.ofString "email") contact = some (.string email) ∧
      ¬ IsMailAddress email := by
  have asPolicy : tagFor? "ai.json" none = some DataKind.policy.kind.tag := by
    cbv
  obtain ⟨result, answered, faultless⟩ := answer_feedPolicy asPolicy
  refine ⟨result, feedPolicy, [(CodePoints.ofString "email", .words "c@d\n")],
    CodePoints.ofString "1.0\n", CodePoints.ofString "c@d\n", answered, faultless,
    parse_feedPolicyText, by simp [feedPolicy, Json.words], ?_, by simp [feedPolicy],
    by simp [Json.words], ?_⟩
  · exact fun dotted => dotted.not_endsInFeed ⟨CodePoints.ofString "1.0", by
      simp [CodePoints.ofString, CodePoints.ofText]⟩
  · exact fun address => address.not_endsInFeed ⟨CodePoints.ofString "c@d", by
      simp [CodePoints.ofString, CodePoints.ofText]⟩

end Checking

end Bundled
end DiscoveryFiles
