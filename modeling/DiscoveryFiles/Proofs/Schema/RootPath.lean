import DiscoveryFiles.Proofs.Schema.Place

/-!
# The path of the outermost value

The outermost value has no path of its own, and a violation by it is reported at a path that stands
for it.  Paths hold the names of members as they are, so that a value inside can come to that path
too: where its own path is empty because no name on the way to it has a character, and where its
path is the very text that stands for the outermost value.
-/

namespace DiscoveryFiles

namespace CodePoints

/-- A string that is shown as a text without the replacement character is this text. -/
theorem eq_ofText_of_shown {points : CodePoints} {text : Text} (shown_eq : points.shown = text)
    (regular : Char.ofNat 0xFFFD ∉ text) : points = ofText text := by
  subst shown_eq
  induction points with
  | nil => rfl
  | cons point points induction =>
      simp only [shown, List.map_cons, List.mem_cons, not_or] at regular
      have tail := induction regular.2
      cases point with
      | scalar c => exact congrArg (CodePoint.scalar c :: ·) tail
      | surrogate code => exact absurd rfl regular.1

end CodePoints

namespace Schema

/-! ## Texts that stand for the outermost value -/

/-- A text with a character that does not occur in the path of the outermost value. -/
def IsForeign (text : Text) : Prop :=
  ∃ c ∈ text, c ∉ rootPath.toList

theorem IsForeign.ne {text : Text} (foreign : IsForeign text) : text ≠ rootPath.toList := by
  rintro rfl
  obtain ⟨c, member, other⟩ := foreign
  exact other member

private theorem isForeign_append_iff {first second : Text} :
    IsForeign (first ++ second) ↔ IsForeign first ∨ IsForeign second := by
  simp [IsForeign, or_and_right, exists_or]

private theorem shown_eq_rootPath_iff {name : CodePoints} :
    name.shown = rootPath.toList ↔ name = CodePoints.ofString rootPath := by
  constructor
  · exact fun shown_eq => CodePoints.eq_ofText_of_shown shown_eq (by decide)
  · rintro rfl
    exact CodePoints.shown_ofText _

private theorem Step.isForeign_written (step : Step) : IsForeign step.written := by
  cases step with
  | member name => exact ⟨'.', List.mem_cons_self, by decide⟩
  | item index => exact ⟨'[', List.mem_cons_self, by decide⟩

private theorem isForeign_toDigits (n : Nat) : IsForeign (Nat.toDigits 10 n) := by
  obtain ⟨c, member⟩ := List.exists_mem_of_ne_nil (Nat.toDigits 10 n) Nat.toDigits_ne_nil
  have digit : c.isDigit = true :=
    Nat.isDigit_of_mem_toDigits (by decide) (by decide) member
  have none_digit : ∀ other ∈ rootPath.toList, ¬other.isDigit = true :=
    List.any_eq_false.mp (by decide)
  exact ⟨c, member, fun listed => none_digit c listed digit⟩

private theorem isForeign_writeDigits (layout : Binary64.Layout) (digits : Text) (point : Int) :
    IsForeign (Binary64.writeDigits layout digits point) := by
  rw [Binary64.writeDigits]
  split
  · exact ⟨'.', by split <;> simp, by decide⟩
  · exact ⟨'e', by simp, by decide⟩

/-- A double holds a point, an exponent or letters of its own. -/
theorem isForeign_quoteDouble (x : Binary64) : IsForeign (Json.quoteDouble x) := by
  cases x with
  | nan => exact ⟨'n', by decide⟩
  | infinite negative => cases negative <;> exact ⟨'n', by decide⟩
  | finite negative significand exponent =>
      change IsForeign (Binary64.writeFinite _ negative significand exponent)
      simp only [Binary64.writeFinite]
      by_cases zero : significand = 0
      · rw [if_pos zero, isForeign_append_iff]
        exact .inr ⟨'.', by decide⟩
      · rw [if_neg zero, isForeign_append_iff]
        exact .inr (isForeign_writeDigits _ _ _)

/-- Only a string is named as the outermost value is. -/
theorem named_eq_rootPath_iff {key : Json} :
    key.named = rootPath.toList ↔ key = .words rootPath := by
  cases key with
  | string name => simpa [Json.named, Json.words] using shown_eq_rootPath_iff
  | null => simp [Json.named, Json.quoted, Json.words, rootPath]
  | boolean truth => cases truth <;> simp [Json.named, Json.quoted, Json.words, rootPath]
  | integer n =>
      have foreign : IsForeign (Json.writeInteger n) := by
        cases n with
        | ofNat n => exact isForeign_toDigits n
        | negSucc n => exact ⟨'-', List.mem_cons_self, by decide⟩
      simpa [Json.named, Json.quoted, Json.words] using foreign.ne
  | double x => simpa [Json.named, Json.quoted, Json.words] using (isForeign_quoteDouble x).ne
  | array items => cases items <;> simp [Json.named, Json.quoted, Json.words, rootPath]
  | object members =>
      rcases members with - | ⟨⟨name, value⟩, members⟩ <;>
        simp [Json.named, Json.quoted, Json.words, rootPath]

private theorem memberPath_eq_rootPath_iff {path name : Text} :
    memberPath path name = rootPath.toList ↔ path = [] ∧ name = rootPath.toList := by
  cases path with
  | nil => simp [memberPath]
  | cons c path =>
      have foreign : IsForeign (c :: path ++ '.' :: name) := ⟨'.', by simp, by decide⟩
      simpa [memberPath] using foreign.ne

/-! ## Places that look like the outermost value -/

/-- All steps to a place are to members whose names have no characters. -/
def Location.IsNameless (place : Location) : Prop :=
  ∀ step ∈ place, step = .member []

/-- The last step to a place is to a member with the name that stands for the outermost value, and
no other name on the way has a character. -/
def Location.EndsInRootName (place : Location) : Prop :=
  ∃ outer : Location, outer.IsNameless ∧ place = outer ++ [.member (CodePoints.ofString rootPath)]

private theorem Step.extend_eq_nil_iff {step : Step} : step.extend [] = [] ↔ step = .member [] := by
  cases step with
  | member name => simp [extend, memberPath, CodePoints.shown]
  | item index => simp [extend]

private theorem Step.extend_eq_rootPath_iff {step : Step} :
    step.extend [] = rootPath.toList ↔ step = .member (CodePoints.ofString rootPath) := by
  cases step with
  | member name => simpa [extend, memberPath] using shown_eq_rootPath_iff
  | item index => simp [extend, rootPath]

private theorem Location.endsInRootName_cons_iff {step : Step} {inner : Location} :
    Location.EndsInRootName (step :: inner) ↔
      (step = .member (CodePoints.ofString rootPath) ∧ inner = []) ∨
        (step = .member [] ∧ inner.EndsInRootName) := by
  constructor
  · rintro ⟨outer, nameless, place_eq⟩
    cases outer with
    | nil => exact .inl (List.cons.inj place_eq)
    | cons first outer =>
        obtain ⟨rfl, rfl⟩ := List.cons.inj place_eq
        obtain ⟨first_eq, nameless⟩ := List.forall_mem_cons.mp nameless
        exact .inr ⟨first_eq, outer, nameless, rfl⟩
  · rintro (⟨rfl, rfl⟩ | ⟨rfl, outer, nameless, rfl⟩)
    · exact ⟨[], by simp [IsNameless], rfl⟩
    · exact ⟨.member [] :: outer, List.forall_mem_cons.mpr ⟨rfl, nameless⟩, rfl⟩

private theorem Location.path_nil_eq_nil_iff {place : Location} :
    place.path [] = [] ↔ place.IsNameless := by
  induction place with
  | nil => simp [path, IsNameless]
  | cons step inner induction =>
      rw [IsNameless, List.forall_mem_cons, ← IsNameless, path, List.foldl_cons, ← path]
      -- As long as nothing is written, the next step is the first one again.
      by_cases unwritten : step.extend [] = []
      · rw [unwritten, induction, ← Step.extend_eq_nil_iff, and_iff_right unwritten]
      · rw [path_of_ne_nil unwritten, ← Step.extend_eq_nil_iff]
        simp [unwritten]

/-- A path that stands for the outermost value ends with the first step that is written, as every
step behind another one has a mark in front. -/
theorem Location.path_nil_eq_rootPath_iff {place : Location} :
    place.path [] = rootPath.toList ↔ place.EndsInRootName := by
  induction place with
  | nil => simp [path, EndsInRootName, rootPath]
  | cons step inner induction =>
      rw [endsInRootName_cons_iff, path, List.foldl_cons, ← path]
      by_cases unwritten : step.extend [] = []
      · have step_eq := Step.extend_eq_nil_iff.mp unwritten
        rw [unwritten, induction, step_eq]
        simp [CodePoints.ofString, CodePoints.ofText, rootPath]
      · have step_ne := Step.extend_eq_nil_iff.not.mp unwritten
        rw [path_of_ne_nil unwritten, ← Step.extend_eq_rootPath_iff]
        cases inner with
        | nil => simp [step_ne]
        | cons next inner =>
            have foreign : IsForeign (step.extend [] ++ (next :: inner).flatMap Step.written) := by
              rw [List.flatMap_cons, isForeign_append_iff, isForeign_append_iff]
              exact .inr (.inl next.isForeign_written)
            exact iff_of_false foreign.ne (by simp [step_ne])

/-! ## Violations that look like ones by the outermost value -/

/-- A violation is reported as one by the outermost value.  No name on the way to it has a
character, but for a last one that stands for the outermost value. -/
def Violation.LooksOutermost (violation : Violation) : Prop :=
  match violation.cause with
  | .missing key => violation.location.IsNameless ∧ key = .words rootPath
  | .undeclared name => violation.location.IsNameless ∧ name = CodePoints.ofString rootPath
  | _ => violation.location.IsNameless ∨ violation.location.EndsInRootName

private theorem Violation.path_nil_eq_rootPath_iff {violation : Violation} :
    violation.path [] = rootPath ↔ violation.LooksOutermost := by
  have ofList_eq (text : Text) : String.ofList text = rootPath ↔ text = rootPath.toList := by
    rw [← String.toList_inj, String.toList_ofList]
  rw [path, LooksOutermost]
  cases violation.cause with
  | missing key =>
      simp only [ofList_eq, memberPath_eq_rootPath_iff, Location.path_nil_eq_nil_iff,
        named_eq_rootPath_iff]
  | undeclared name =>
      simp only [ofList_eq, memberPath_eq_rootPath_iff, Location.path_nil_eq_nil_iff,
        shown_eq_rootPath_iff]
  | _ =>
      simp only [List.isEmpty_iff]
      rw [← Location.path_nil_eq_nil_iff, ← Location.path_nil_eq_rootPath_iff]
      split
      next unwritten => simp [unwritten]
      next written => simp [written, ofList_eq]

/-! ## Values that look like the outermost value -/

/-- The first step to a violation that looks like one by the outermost value has one of two
names. -/
theorem Violation.LooksOutermost.first_step {violation : Violation} {step : Step}
    {inner : Location} (looks : violation.LooksOutermost)
    (location_eq : violation.location = step :: inner) :
    step = .member [] ∨ step = .member (CodePoints.ofString rootPath) := by
  have of_nameless (nameless : violation.location.IsNameless) : step = .member [] :=
    nameless step (by simp [location_eq])
  rw [LooksOutermost] at looks
  split at looks
  · exact .inl (of_nameless looks.1)
  · exact .inl (of_nameless looks.1)
  · rcases looks with nameless | ends
    · exact .inl (of_nameless nameless)
    · rw [location_eq, Location.endsInRootName_cons_iff] at ends
      exact ends.symm.imp And.left And.left

/-- The outermost value has no member whose violations could look like its own. -/
def HasTellingNames (data : Json) : Prop :=
  ∀ members, data = .object members →
    Json.member? [] members = none ∧ Json.member? (CodePoints.ofString rootPath) members = none

private theorem HasTellingNames.location_eq_nil {data value : Json} {violation : Violation}
    (telling : HasTellingNames data) (found : violation.location.find? data = some value)
    (looks : violation.LooksOutermost) : violation.location = [] := by
  cases location_eq : violation.location with
  | nil => rfl
  | cons step inner =>
      rw [location_eq] at found
      rcases looks.first_step location_eq with rfl | rfl
      all_goals
        cases data with
        | object members =>
            obtain ⟨next, next_eq, -⟩ := Option.bind_eq_some_iff.mp found
            simp [telling members rfl] at next_eq
        | _ => cases found

/-- What arises from a schema at a value is a violation by a value inside it. -/
theorem Arises.exists_find? {root schema data : Json} {location : Location} {violation : Violation}
    (arises : Arises root location schema data violation) :
    ∃ (inner : Location) (value : Json), violation.location = location ++ inner ∧
      inner.find? data = some value := by
  induction arises with
  | reference given resolved _ induction => exact induction
  | @member _ _ _ _ name _ _ _ declared_eq declares given _ induction =>
      obtain ⟨inner, value, location_eq, found⟩ := induction
      exact ⟨.member name :: inner, value, by simp [location_eq], by
        rw [Location.find?, given, Option.bind_some, found]⟩
  | @item _ _ _ index _ _ _ _ given _ induction =>
      obtain ⟨inner, value, location_eq, found⟩ := induction
      exact ⟨.item index :: inner, value, by simp [location_eq], by
        rw [Location.find?, given, Option.bind_some, found]⟩
  | _ => exact ⟨[], _, (List.append_nil _).symm, rfl⟩

/-- Every violation is one by a value in the data.  With no path for the outermost value, it is
reported at the path that stands for it if and only if it looks like one by it, and it is one by it
if the outermost value has telling names. -/
theorem violations_at_rootPath {root : Option Json} {schema data : Json} {found : List Violation}
    (returned : violations root [] schema data = .ok found) :
    ∀ violation ∈ found,
      (∃ value, violation.location.find? data = some value) ∧
        (violation.path [] = rootPath ↔ violation.LooksOutermost) ∧
        (HasTellingNames data → violation.path [] = rootPath → violation.location = []) := by
  intro violation member
  rw [violations_eq_check] at returned
  obtain ⟨inner, value, location_eq, value_eq⟩ :=
    (arises_of_mem_check returned member).exists_find?
  rw [← List.nil_append inner, ← location_eq] at value_eq
  refine ⟨⟨value, value_eq⟩, Violation.path_nil_eq_rootPath_iff, fun telling at_root => ?_⟩
  exact telling.location_eq_nil value_eq (Violation.path_nil_eq_rootPath_iff.mp at_root)

/-- A schema for objects that hold a string under a name, if they hold anything there. -/
def textMember (name : CodePoints) : Json :=
  .object [
    (CodePoints.ofString "properties", .object [
      (name, .object [(CodePoints.ofString "type", .words "string")])])]

private theorem check_textMember (context : Context) (location : Location) (name : CodePoints)
    (n : Int) :
    check context location [] (textMember name) (.object [(name, .integer n)]) =
      .ok [⟨location ++ [.member name], .wrongType (.words "string") "number"⟩] := by
  simp [textMember, check, checkAlternatives, typeViolation?, ownViolations, optionViolations,
    constantViolations, checkInside, requiredKeys, requiredViolations, properties, checkMembers,
    checkMember, undeclaredViolations, isClosed, Json.member?, Json.typeName, hasType_words]

/-- Under no name, and under the name that stands for the outermost value, a number inside is
reported as the outermost value. -/
theorem insideNumber_at_rootPath :
    ∃ nameless rootNamed : Violation,
      violations none [] (textMember []) (.object [([], .integer 1)]) = .ok [nameless] ∧
        nameless.path [] = rootPath ∧ nameless.location = [.member []] ∧
        violations none [] (textMember (CodePoints.ofString "(root)"))
          (.object [(CodePoints.ofString "(root)", .integer 1)]) = .ok [rootNamed] ∧
        rootNamed.path [] = rootPath ∧
        rootNamed.location = [.member (CodePoints.ofString "(root)")] :=
  ⟨_, _, check_textMember _ [] _ 1, by decide, rfl, check_textMember _ [] _ 1, by decide, rfl⟩

/-- A schema for null that looks into a table all the same. -/
def nullOrTable : Json :=
  .object [
    (CodePoints.ofString "const", .null),
    (CodePoints.ofString "properties", .object [
      (CodePoints.ofString "table", textMember (CodePoints.ofString "(root)"))])]

/-- A table in which a number stands under the name that stands for the outermost value. -/
def rootNamedTable : Json :=
  .object [(CodePoints.ofString "table", .object [(CodePoints.ofString "(root)", .integer 1)])]

/-- The violations by the table itself and by the number inside. -/
def tableViolations : List Violation :=
  [⟨[], .notConstant .null rootNamedTable⟩,
    ⟨[.member (CodePoints.ofString "table"), .member (CodePoints.ofString "(root)")],
      .wrongType (.words "string") "number"⟩]

private theorem violations_nullOrTable :
    violations none [] nullOrTable rootNamedTable = .ok tableViolations := by
  rw [violations_eq_check, nullOrTable, rootNamedTable, check]
  simp [checkAlternatives, typeViolation?, ownViolations, optionViolations, constantViolations,
    checkInside, requiredKeys, requiredViolations, properties, checkMembers, checkMember,
    check_textMember, undeclaredViolations, isClosed, Json.equal, Json.same, tableViolations,
    rootNamedTable]

/-- Two levels down the name is told apart, and only the table itself is reported as the outermost
value. -/
theorem tableViolations_at_rootPath :
    violations none [] nullOrTable rootNamedTable = .ok tableViolations ∧
      HasTellingNames rootNamedTable ∧
      tableViolations.map (·.path []) = [rootPath, "table.(root)"] ∧
      ∀ violation ∈ tableViolations,
        (∃ value, violation.location.find? rootNamedTable = some value) ∧
          (violation.path [] = rootPath ↔ violation.LooksOutermost) ∧
          (HasTellingNames rootNamedTable → violation.path [] = rootPath →
            violation.location = []) := by
  have telling : HasTellingNames rootNamedTable := by
    rintro members ⟨⟩
    decide
  exact ⟨violations_nullOrTable, telling, rfl, violations_at_rootPath violations_nullOrTable⟩

end Schema
end DiscoveryFiles
