import DiscoveryFiles.Proofs.Pattern.Reading
import DiscoveryFiles.Proofs.Schema.Acceptance
import DiscoveryFiles.Proofs.Schema.Origin

/-!
# Patterns are searched for

The pattern keyword looks for a word of the pattern anywhere in a string, and it is violated
exactly when there is none.  The search comes to an end for every written pattern.
-/

namespace DiscoveryFiles
namespace Schema

open Pattern

variable {expression : Expression} {context : Context} {location : Location}
  {keywords : List (CodePoints × Json)} {points : CodePoints} {found : List Violation}

/-- The empty pattern has a word in every string. -/
theorem occursIn_of_written_eq_nil (valid : expression.IsValid)
    (written_eq : expression.written = []) (points : CodePoints) : expression.OccursIn points := by
  obtain ⟨pattern, read, standsFor⟩ := Expression.exists_parse valid
  have empty_read : parse [] = .ok .empty := rfl
  rw [written_eq, empty_read] at read
  obtain rfl := Except.ok.inj read
  rw [← Expression.occursIn_iff_of_standsFor standsFor, Pattern.occursIn_iff rfl]
  exact ⟨0, Nat.zero_le _, 0, rfl, Nat.zero_le _⟩

/-- The pattern keyword finds nothing if a word of the pattern occurs, and else its violation. -/
theorem patternViolations_of_isValid (valid : expression.IsValid) (location : Location)
    (points : CodePoints) :
    expression.OccursIn points ∧
        patternViolations location (some (.string expression.written)) points = .ok [] ∨
      ¬ expression.OccursIn points ∧
        patternViolations location (some (.string expression.written)) points =
          .ok [⟨location, .noMatch expression.written⟩] := by
  by_cases empty : expression.written = []
  · refine .inl ⟨occursIn_of_written_eq_nil valid empty points, ?_⟩
    rw [empty]
    rfl
  obtain ⟨pattern, read, standsFor⟩ := Expression.exists_parse valid
  have given : (Json.string expression.written).isGiven = true := by
    rw [Json.isGiven, List.isEmpty_eq_false_iff.mpr empty]
    rfl
  rw [← Expression.occursIn_iff_of_standsFor standsFor]
  simp only [patternViolations, given, read, Bool.not_true, Bool.false_eq_true, if_false]
  cases pattern.occursIn points with
  | true => exact .inl ⟨rfl, rfl⟩
  | false => exact .inr ⟨Bool.false_ne_true, rfl⟩

section Own

variable {pattern : CodePoints}

private theorem noMatch_notMem_constantViolations (data : Json) :
    ⟨location, .noMatch pattern⟩ ∉ constantViolations location keywords data := by
  rw [constantViolations]
  split
  · exact List.not_mem_nil
  · split <;> simp

private theorem noMatch_notMem_optionViolations {data : Json}
    (returned : optionViolations location keywords data = .ok found) :
    ⟨location, .noMatch pattern⟩ ∉ found := by
  rw [optionViolations] at returned
  split at returned
  · obtain rfl := Except.ok.inj returned
    exact List.not_mem_nil
  · obtain ⟨options, -, chosen⟩ := bind_eq_ok_iff.mp returned
    split at chosen <;> obtain rfl := pure_eq_ok_iff.mp chosen <;> simp

/-- Only the pattern keyword reports that a string does not match. -/
theorem noMatch_mem_ownViolations_iff
    (returned : ownViolations location keywords (.string points) = .ok found) :
    ∃ reported, patternViolations location (keyword? "pattern" keywords) points = .ok reported ∧
      (⟨location, .noMatch pattern⟩ ∈ found ↔ ⟨location, .noMatch pattern⟩ ∈ reported) := by
  obtain ⟨options, options_eq, rest⟩ := bind_eq_ok_iff.mp returned
  obtain ⟨lengths, lengths_eq, rest⟩ := bind_eq_ok_iff.mp rest
  obtain ⟨reported, reported_eq, rest⟩ := bind_eq_ok_iff.mp rest
  obtain rfl := pure_eq_ok_iff.mp rest
  have notLength : ⟨location, .noMatch pattern⟩ ∉ lengths := by
    intro member
    obtain ⟨_, -, -, same⟩ := eq_of_mem_lengthViolations lengths_eq member
    cases same
  refine ⟨reported, reported_eq, ?_⟩
  simp only [List.mem_append, noMatch_notMem_constantViolations,
    noMatch_notMem_optionViolations options_eq, notLength, false_or]

end Own

/-- Without other keywords for strings only the pattern is left. -/
theorem check_eq_patternViolations {followed : List CodePoints} (plain : IsPlain keywords)
    (typed : hasType (keyword? "type" keywords) (.string points) = true)
    (anyLength : keyword? "minLength" keywords = none) :
    check context location followed (.object keywords) (.string points) =
      patternViolations location (keyword? "pattern" keywords) points := by
  have noViolation : typeViolation? location keywords (.string points) = none := by
    rw [typeViolation?, if_pos typed]
  rw [check_eq_of_isDirect plain.isDirect, noViolation]
  simp only [ownViolations, optionViolations, constantViolations, lengthViolations, checkInside,
    plain.constant, plain.options, anyLength, ok_bind, List.nil_append, List.append_nil]
  exact (bind_pure _).trans (bind_pure _)

/-- A node that asks nothing else of a value than a pattern. -/
def patternNode (pattern : CodePoints) : Json :=
  .object [(CodePoints.ofString "pattern", .string pattern)]

private theorem violations_patternNode (root : Option Json) (base : Text)
    (pattern points : CodePoints) :
    violations root base (patternNode pattern) (.string points) =
      patternViolations [] (some (.string pattern)) points := by
  have plain : IsPlain [(CodePoints.ofString "pattern", Json.string pattern)] := by
    constructor <;> simp
  unfold violations
  rw [patternNode, check_eq_patternViolations plain (by simp) (by simp), keyword?_cons, if_pos rfl]

/-- The pattern keyword is a search.  A string violates a node with nothing but a pattern exactly
when no word of the pattern stands anywhere in it, and the search always returns; in a node with
other keywords the pattern is reported under the same condition, as soon as these let the node come
to it; and the empty pattern is never reported. -/
theorem pattern_isSearch :
    (∀ (expression : Expression), expression.IsValid → ∀ (points : CodePoints),
      (∀ (root : Option Json) (base : Text), ∃ found,
        violations root base (patternNode expression.written) (.string points) = .ok found ∧
          (found = [] ↔ expression.OccursIn points) ∧
          (found = [⟨[], .noMatch expression.written⟩] ↔ ¬ expression.OccursIn points)) ∧
      ∀ (context : Context) (location : Location) (followed : List CodePoints)
        (keywords : List (CodePoints × Json)) (found : List Violation),
        keyword? "pattern" keywords = some (.string expression.written) →
        keyword? "$ref" keywords = none →
        checkAlternatives context location followed (keyword? "oneOf" keywords) (.string points) =
          .ok true →
        hasType (keyword? "type" keywords) (.string points) = true →
        check context location followed (.object keywords) (.string points) = .ok found →
        (⟨location, .noMatch expression.written⟩ ∈ found ↔ ¬ expression.OccursIn points)) ∧
    ∀ (root : Option Json) (base : Text) (points : CodePoints),
      violations root base (patternNode []) (.string points) = .ok [] := by
  refine ⟨fun expression valid points => ⟨fun root base => ?_, ?_⟩, fun root base points => ?_⟩
  · rw [violations_patternNode]
    rcases patternViolations_of_isValid valid [] points with ⟨occurs, found_eq⟩ | ⟨absent, found_eq⟩
    · exact ⟨[], found_eq, iff_of_true rfl occurs, iff_of_false (by simp) (not_not_intro occurs)⟩
    · exact ⟨_, found_eq, iff_of_false (by simp) absent, iff_of_true rfl absent⟩
  · intro context location followed keywords found given direct alternatives typed returned
    have noViolation : typeViolation? location keywords (.string points) = none := by
      rw [typeViolation?, if_pos typed]
    rw [check, alternatives, direct, noViolation] at returned
    obtain ⟨own, own_eq, rest⟩ := bind_eq_ok_iff.mp returned
    simp only [checkInside, ok_bind] at rest
    obtain rfl := pure_eq_ok_iff.mp rest
    obtain ⟨reported, reported_eq, member_iff⟩ := noMatch_mem_ownViolations_iff own_eq
    rw [List.append_nil, member_iff]
    rw [given] at reported_eq
    rcases patternViolations_of_isValid valid location points with
      ⟨occurs, found_eq⟩ | ⟨absent, found_eq⟩
    · obtain rfl := Except.ok.inj (found_eq.symm.trans reported_eq)
      exact iff_of_false List.not_mem_nil (not_not_intro occurs)
    · obtain rfl := Except.ok.inj (found_eq.symm.trans reported_eq)
      exact iff_of_true (List.mem_singleton_self _) absent
  · rw [violations_patternNode]
    rfl

/-- Stars around stars, whose body can be empty, before a letter. -/
def nestedStars : Expression :=
  .last (.group .plain
    (.last (.single (.plain (.scalar 'a') (by simp [signs])) (some ⟨.star, false⟩) .done))
    (some ⟨.star, true⟩)
    (.single (.plain (.scalar 'b') (by simp [signs])) none .done))

private theorem nestedStars_isValid : nestedStars.IsValid := by
  constructor
  · simp [nestedStars, Expression.Fits, Row.Fits, Single.Fits]
  · decide

/-- The stars may be left out, but not the letter. -/
theorem nestedStars_occursIn_iff (points : CodePoints) :
    nestedStars.OccursIn points ↔ .scalar 'b' ∈ points := by
  constructor
  · rintro ⟨before, _, behind, rfl, start, _, rfl, -, _, _, rfl, ⟨_, rfl, rfl⟩, rfl⟩
    simp
  · intro member
    obtain ⟨before, behind, rfl⟩ := List.append_of_mem member
    refine ⟨before, [.scalar 'b'], behind, by simp, [], [.scalar 'b'], rfl, ⟨0, ?_⟩, ?_⟩
    · exact ⟨Nat.le_refl 0, by simp [Repetition.most], .zero _ _⟩
    · exact ⟨[.scalar 'b'], [], rfl, ⟨_, rfl, rfl⟩, rfl⟩

/-- A node for strings with that pattern. -/
def starsNode : List (CodePoints × Json) :=
  [(CodePoints.ofString "type", .words "string"),
    (CodePoints.ofString "pattern", .string nestedStars.written)]

private theorem check_starsNode (points : CodePoints) :
    check ⟨.null, []⟩ [] [] (.object starsNode) (.string points) =
      patternViolations [] (some (.string nestedStars.written)) points := by
  have plain : IsPlain starsNode := by constructor <;> simp [starsNode]
  rw [check_eq_patternViolations plain (by simp [starsNode, Json.typeName]) (by simp [starsNode])]
  simp [starsNode]

theorem pattern_isSearch_nestedStars :
    nestedStars.written = CodePoints.ofString "(a*)*?b" ∧
      (∃ found, violations none [] (patternNode nestedStars.written)
        (.string (CodePoints.ofString "caab")) = .ok found ∧ found = []) ∧
      ∃ found, check ⟨.null, []⟩ [] [] (.object starsNode) (.string (CodePoints.ofString "aa")) =
        .ok found ∧ ⟨[], .noMatch nestedStars.written⟩ ∈ found := by
  refine ⟨rfl, ?_, ?_⟩
  · obtain ⟨found, found_eq, none_iff, -⟩ :=
      (pattern_isSearch.1 nestedStars nestedStars_isValid (CodePoints.ofString "caab")).1 none []
    have occurs := (nestedStars_occursIn_iff (CodePoints.ofString "caab")).mpr (by decide)
    exact ⟨found, found_eq, none_iff.mpr occurs⟩
  · have absent : ¬ nestedStars.OccursIn (CodePoints.ofString "aa") :=
      (nestedStars_occursIn_iff _).not.mpr (by decide)
    obtain ⟨occurs, -⟩ | ⟨-, found_eq⟩ :=
      patternViolations_of_isValid nestedStars_isValid [] (CodePoints.ofString "aa")
    · exact absurd occurs absent
    · rw [← check_starsNode] at found_eq
      refine ⟨_, found_eq, ?_⟩
      exact ((pattern_isSearch.1 nestedStars nestedStars_isValid _).2 ⟨.null, []⟩ [] []
        starsNode _ (by simp [starsNode]) (by simp [starsNode])
        (by simp [starsNode, checkAlternatives]) (by simp [starsNode, Json.typeName])
        found_eq).mpr absent

end Schema
end DiscoveryFiles
