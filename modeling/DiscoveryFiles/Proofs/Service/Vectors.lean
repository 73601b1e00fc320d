import DiscoveryFiles.Proofs.FileTree.Listing
import DiscoveryFiles.Proofs.Service.Attempt
import DiscoveryFiles.Proofs.Text.Lowercase

/-!
# Running test vectors

A run goes through the names in the two parts of a directory of test vectors.  Each file that is
neither hidden nor a readme has one outcome there, with the result that it has alone.
-/

namespace DiscoveryFiles
namespace Service

/-- A name that a test vector may have: not that of a hidden file, nor of a readme in any case. -/
def MayName (name : Text) : Prop :=
  name.head? ≠ some '.' ∧ name.map Char.toLower ≠ "readme.md".toList

/-- A file in a part of the test vectors is one of them. -/
def IsVector (tree : FileTree) (part : Path) (name : Text) : Prop :=
  tree.HasFile (part.child name) ∧ MayName name

private theorem isIgnored_eq_false_iff {name : Text} : isIgnored name = false ↔ MayName name := by
  have plain : Text.Plain "readme.md".toList := by decide
  have hidden : name.begins "." = true ↔ name.head? = some '.' := by
    rw [Text.begins_iff]
    exact List.singleton_prefix_iff_head?_eq_some
  rw [← Bool.not_eq_true, isIgnored, Bool.or_eq_true, hidden, beq_iff_eq,
    Text.lower_eq_iff plain, not_or, MayName]

/-! ## One part -/

section Part

variable {tree : FileTree} {schemas part : Path} {expected : Bool}

/-- What a run does behind the result for the file at a path. -/
def flagged (path : Path) (expected : Bool) (rest : Service (List Outcome)) (result : Result) :
    Service (List Outcome) := do
  let outcome : Outcome := ⟨result, expected⟩
  if outcome.unexpected then
    note .info .validation ("Unexpected outcome for test vector " ++ path.words)
  return outcome :: (← rest)

section Flagged

variable {path : Path} {rest : Service (List Outcome)}
  (restAfresh : AnswersAfresh schemas tree rest) (result : Result)

include restAfresh

private theorem answersAfresh_flagged :
    AnswersAfresh schemas tree (flagged path expected rest result) := by
  have listed := answersAfresh_cons restAfresh (⟨result, expected⟩ : Outcome)
  rw [flagged]
  split
  · exact (answersAfresh_note _ _ _).bind fun _ => listed
  · exact listed

private theorem answer_flagged :
    answer (flagged path expected rest result) (.fresh schemas) =
      (answer rest (.fresh schemas)).map (⟨result, expected⟩ :: ·) := by
  have listed := answersAfresh_cons restAfresh (⟨result, expected⟩ : Outcome)
  have list_eq := answer_cons restAfresh (⟨result, expected⟩ : Outcome)
  rw [flagged]
  split
  · exact ((answersAfresh_note _ _ _).answer_bind fun _ => listed).trans list_eq
  · exact list_eq

end Flagged

private theorem runVectors_cons (name : Text) (names : List Text) :
    runVectors tree part expected (name :: names) =
      if isIgnored name then runVectors tree part expected names
      else (do
        if ← hasFile tree (part.child name) then
          flagged (part.child name) expected (runVectors tree part expected names)
            (← validateFile tree (part.child name).words none)
        else runVectors tree part expected names) :=
  rfl

private theorem answersAfresh_runVectors (names : List Text) :
    AnswersAfresh schemas tree (runVectors tree part expected names) := by
  induction names with
  | nil => exact answersAfresh_pure _
  | cons name names others =>
      rw [runVectors_cons]
      split
      · exact others
      · exact answersAfresh_step (answersAfresh_flagged others) others

/-- The names that a run attempts, among those in a part. -/
def attemptedNames (tree : FileTree) (part : Path) (names : List Text) : List Text :=
  names.filter fun name => !isIgnored name && tree.MayHaveFile (part.child name)

/-- The outcomes of a run come from the results that the files have alone; the first file without a
result ends the run. -/
theorem answer_runVectors (names : List Text) :
    answer (runVectors tree part expected names) (.fresh schemas) =
      (attemptedNames tree part names).mapM fun name =>
        (attempt tree schemas (part.child name)).map (⟨·, expected⟩) := by
  induction names with
  | nil => rfl
  | cons name names induction =>
      have others : AnswersAfresh schemas tree (runVectors tree part expected names) :=
        answersAfresh_runVectors names
      rw [runVectors_cons, attemptedNames, List.filter_cons]
      by_cases ignored : isIgnored name = true
      · rw [if_pos ignored, if_neg (by simp [ignored]), induction, attemptedNames]
      · rw [if_neg ignored, answer_step (answersAfresh_flagged others) others]
        by_cases attempted : tree.MayHaveFile (part.child name)
        · rw [if_pos attempted, if_pos (by simp [ignored, attempted]), mapM_cons_eq]
          simp only [answer_flagged others, induction, attemptedNames]
          cases attempt tree schemas (part.child name) <;> rfl
        · rw [if_neg attempted, if_neg (by simp [attempted]), induction, attemptedNames]

private theorem answersAfresh_runPart :
    AnswersAfresh schemas tree (runPart tree part expected) := by
  rw [runPart]
  cases tree.isDirectory part with
  | error obstacle => exact answersAfresh_throw _
  | ok found =>
      cases found with
      | false => exact answersAfresh_pure _
      | true => exact answersAfresh_runVectors _

/-- What a run looks at in a part is within reach. -/
def WithinReach (tree : FileTree) (part : Path) : Prop :=
  ¬ tree.IsTooLong part ∧
    ∀ name ∈ tree.list part, MayName name → ¬ tree.IsTooLong (part.child name)

/-- Outcomes of the test vectors of a part, under their names. -/
structure ReportsPart (tree : FileTree) (schemas part : Path) (expected : Bool)
    (names : List Text) (outcomes : List Outcome) : Prop where
  /-- All test vectors are named, and nothing else. -/
  complete : ∀ name, name ∈ names ↔ IsVector tree part name
  /-- The names stand in the order of code points. -/
  ordered : names.Pairwise fun name other => name.Before other ∨ name = other
  /-- No name stands twice, unless it does so in the file tree. -/
  once : tree.Distinct part → names.Pairwise Text.Before
  /-- The outcomes have the results that the files have alone. -/
  outcomes : List.Forall₂
    (fun name outcome =>
      alone tree schemas (part.child name) = .ok outcome.result ∧ outcome.expected = expected)
    names outcomes

private theorem mem_attemptedNames {name : Text} :
    name ∈ attemptedNames tree part (tree.list part) ↔
      name ∈ tree.list part ∧ MayName name ∧ tree.MayHaveFile (part.child name) := by
  rw [attemptedNames, List.mem_filter, Bool.and_eq_true, Bool.not_eq_true', decide_eq_true_iff,
    isIgnored_eq_false_iff]

private theorem answer_runPart (short : ¬ tree.IsTooLong part) :
    answer (runPart tree part expected) (.fresh schemas) =
      (attemptedNames tree part (tree.list part)).mapM fun name =>
        (attempt tree schemas (part.child name)).map (⟨·, expected⟩) := by
  rw [runPart]
  by_cases found : tree.HasDirectory part
  · rw [FileTree.isDirectory_eq_true_iff.mpr found]
    exact answer_runVectors _
  · rw [FileTree.isDirectory_eq_false_iff.mpr ⟨found, short⟩, FileTree.list_eq_nil found]
    rfl

private theorem answer_runPart_of_isTooLong (long : tree.IsTooLong part) :
    answer (runPart tree part expected) (.fresh schemas) = .error .nameTooLong := by
  rw [runPart, FileTree.isDirectory_eq_error_iff.mpr ⟨long, rfl⟩]
  rfl

private theorem outcome_of_attempt {path : Path} {outcome : Outcome}
    (answered : (attempt tree schemas path).map (⟨·, expected⟩) = .ok outcome) :
    ¬ tree.IsTooLong path ∧
      alone tree schemas path = .ok outcome.result ∧ outcome.expected = expected := by
  rw [attempt] at answered
  split at answered
  · cases answered
  next short =>
    cases found : alone tree schemas path with
    | error failure => simp [found, Except.map] at answered
    | ok result =>
        rw [found] at answered
        obtain rfl := Except.ok.inj answered
        exact ⟨short, rfl, rfl⟩

/-- What a run of a part answers are the outcomes of its test vectors. -/
theorem reportsPart_of_answer {outcomes : List Outcome}
    (answered : answer (runPart tree part expected) (.fresh schemas) = .ok outcomes) :
    WithinReach tree part ∧ ∃ names, ReportsPart tree schemas part expected names outcomes := by
  have short : ¬ tree.IsTooLong part := by
    intro long
    rw [answer_runPart_of_isTooLong long] at answered
    cases answered
  rw [answer_runPart short, mapM_eq_ok_iff] at answered
  obtain ⟨reached, outcomes_eq⟩ := (List.forall₂_and_left _ _).mp
    (answered.imp fun name outcome has_outcome => outcome_of_attempt has_outcome)
  refine ⟨⟨short, fun name listed may long => ?_⟩, attemptedNames tree part (tree.list part),
    fun name => ?_, ?_, fun distinct => ?_, outcomes_eq⟩
  · exact reached name (mem_attemptedNames.mpr ⟨listed, may, .inr long⟩) long
  · constructor
    · intro member
      obtain ⟨-, may, found | long⟩ := mem_attemptedNames.mp member
      · exact ⟨found, may⟩
      · exact absurd long (reached name member)
    · rintro ⟨found, may⟩
      exact mem_attemptedNames.mpr ⟨FileTree.mem_list_of_hasFile found, may, .inl found⟩
  · exact (FileTree.pairwise_list tree part).filter _
  · exact (FileTree.pairwise_before_list distinct).filter _

section Answered

variable (expected) (answered : ∀ name, IsVector tree part name →
  ∃ result, alone tree schemas (part.child name) = .ok result)

include answered

/-- If all test vectors have results, then only what is out of reach makes a run fail. -/
theorem answer_runPart_cases :
    WithinReach tree part ∧
        (∃ outcomes, answer (runPart tree part expected) (.fresh schemas) = .ok outcomes) ∨
      ¬ WithinReach tree part ∧
        answer (runPart tree part expected) (.fresh schemas) = .error .nameTooLong := by
  by_cases long : tree.IsTooLong part
  · exact .inr ⟨fun reach => reach.1 long, answer_runPart_of_isTooLong long⟩
  cases ran : answer (runPart tree part expected) (.fresh schemas) with
  | ok outcomes => exact .inl ⟨(reportsPart_of_answer ran).1, outcomes, rfl⟩
  | error failure =>
      rw [answer_runPart long, mapM_eq_error_iff] at ran
      obtain ⟨before, name, behind, split_eq, failed, -⟩ := ran
      have member : name ∈ attemptedNames tree part (tree.list part) := by simp [split_eq]
      obtain ⟨listed, may, found | far⟩ := mem_attemptedNames.mp member
      · obtain ⟨result, has_result⟩ := answered name ⟨found, may⟩
        beta_reduce at failed
        rw [attempt, if_neg found.not_isTooLong, has_result] at failed
        cases failed
      · beta_reduce at failed
        rw [attempt, if_pos far] at failed
        obtain rfl := Except.error.inj failed
        exact .inr ⟨fun reach => reach.2 name listed may far, rfl⟩

private theorem exists_answer_runPart (reach : WithinReach tree part) :
    ∃ outcomes, answer (runPart tree part expected) (.fresh schemas) = .ok outcomes := by
  rcases answer_runPart_cases expected answered with ⟨-, outcomes_eq⟩ | ⟨far, -⟩
  · exact outcomes_eq
  · exact absurd reach far

end Answered

/-- All outcomes of a part are expected ones if this holds of all its test vectors. -/
theorem ReportsPart.expected_iff {names : List Text} {outcomes : List Outcome}
    (reports : ReportsPart tree schemas part expected names outcomes) :
    (∀ outcome ∈ outcomes, outcome.unexpected = false) ↔
      ∀ name, IsVector tree part name → ∃ result,
        alone tree schemas (part.child name) = .ok result ∧ result.valid = expected := by
  have same := forall_mem_iff_of_forall₂
    (p := fun name => ∃ result,
      alone tree schemas (part.child name) = .ok result ∧ result.valid = expected)
    (q := fun outcome => outcome.unexpected = false) reports.outcomes
    fun name outcome ⟨has_result, expects⟩ => by
      simp [has_result, Outcome.unexpected, expects]
  rw [← same]
  simp only [reports.complete]

end Part

/-! ## Both parts -/

/-- The directory of the files that should pass. -/
def passingPart (path : String) : Path :=
  (Path.ofString path).child "valid".toList

/-- The directory of the files that should fail. -/
def failingPart (path : String) : Path :=
  (Path.ofString path).child "invalid".toList

/-- What a report on test vectors says about them. -/
structure ReportsVectors (tree : FileTree) (schemas : Path) (path : String)
    (report : VectorReport) : Prop where
  /-- The report names the directory. -/
  root : report.path = path
  /-- The outcomes of the files that should pass. -/
  passing : ∃ names, ReportsPart tree schemas (passingPart path) true names report.passing
  /-- The outcomes of the files that should fail. -/
  failing : ∃ names, ReportsPart tree schemas (failingPart path) false names report.failing
  /-- The report passes if the files that should pass have no errors, and those that should fail
  have some. -/
  allPassed : report.allPassed = true ↔
    (∀ name, IsVector tree (passingPart path) name → ∃ result,
      alone tree schemas ((passingPart path).child name) = .ok result ∧
        result.findings.errors = []) ∧
    (∀ name, IsVector tree (failingPart path) name → ∃ result,
      alone tree schemas ((failingPart path).child name) = .ok result ∧
        result.findings.errors ≠ [])

/-- There is a directory of test vectors, and each of them has errors if it should. -/
structure VectorsPass (tree : FileTree) (schemas : Path) (path : String) : Prop where
  /-- The directory is there. -/
  found : tree.HasDirectory (Path.ofString path)
  /-- Nothing is too long among the files that should pass. -/
  reachPassing : WithinReach tree (passingPart path)
  /-- Nothing is too long among the files that should fail. -/
  reachFailing : WithinReach tree (failingPart path)
  /-- The files that should pass have no errors. -/
  passing : ∀ name, IsVector tree (passingPart path) name → ∃ result,
    alone tree schemas ((passingPart path).child name) = .ok result ∧ result.findings.errors = []
  /-- The files that should fail have errors. -/
  failing : ∀ name, IsVector tree (failingPart path) name → ∃ result,
    alone tree schemas ((failingPart path).child name) = .ok result ∧ result.findings.errors ≠ []

section Run

variable {tree : FileTree} {schemas : Path} {path : String}

private theorem answersAfresh_validateVectors :
    AnswersAfresh schemas tree (validateVectors tree path) := by
  refine (answersAfresh_requireDirectory path).bind fun _ => ?_
  refine answersAfresh_runPart.bind fun passing => ?_
  exact answersAfresh_runPart.bind fun failing => answersAfresh_pure _

private theorem answer_validateVectors_of_isTooLong {state : ServiceState}
    (long : tree.IsTooLong (Path.ofString path)) :
    answer (validateVectors tree path) state = .error .nameTooLong := by
  rw [validateVectors, answer_requireDirectory_then,
    FileTree.isDirectory_eq_error_iff.mpr ⟨long, rfl⟩]

private theorem answer_validateVectors_of_absent {state : ServiceState}
    (absent : ¬ tree.HasDirectory (Path.ofString path))
    (short : ¬ tree.IsTooLong (Path.ofString path)) :
    answer (validateVectors tree path) state = .error (.directoryNotFound path) := by
  rw [validateVectors, answer_requireDirectory_then,
    FileTree.isDirectory_eq_false_iff.mpr ⟨absent, short⟩]

theorem answer_validateVectors_of_hasDirectory {state : ServiceState}
    (afresh : LoadsAfresh schemas tree state) (found : tree.HasDirectory (Path.ofString path)) :
    answer (validateVectors tree path) state =
      (answer (runPart tree (passingPart path) true) (.fresh schemas)).bind fun passing =>
        (answer (runPart tree (failingPart path) false) (.fresh schemas)).map fun failing =>
          ⟨path, passing, failing⟩ := by
  rw [(answersAfresh_validateVectors state afresh).1, validateVectors,
    answer_requireDirectory_then, FileTree.isDirectory_eq_true_iff.mpr found]
  have passing_part : AnswersAfresh schemas tree (runPart tree (passingPart path) true) :=
    answersAfresh_runPart
  have failing_part : AnswersAfresh schemas tree (runPart tree (failingPart path) false) :=
    answersAfresh_runPart
  have report (passing failing : List Outcome) :
      AnswersAfresh schemas tree (pure (⟨path, passing, failing⟩ : VectorReport)) :=
    answersAfresh_pure _
  refine (passing_part.answer_bind fun passing => failing_part.bind (report passing)).trans ?_
  congr 1
  funext passing
  rw [failing_part.answer_bind (report passing)]
  cases answer (runPart tree (failingPart path) false) (.fresh schemas) <;> rfl

/-- A report passes if all outcomes of both parts are the expected ones. -/
theorem allPassed_iff (report : VectorReport) :
    report.allPassed = true ↔
      (∀ outcome ∈ report.passing, outcome.unexpected = false) ∧
        ∀ outcome ∈ report.failing, outcome.unexpected = false := by
  simp [VectorReport.allPassed]

/-- What a run answers is a report on the test vectors, all of which were within reach. -/
theorem reportsVectors_of_answer {state : ServiceState} {report : VectorReport}
    (afresh : LoadsAfresh schemas tree state) (found : tree.HasDirectory (Path.ofString path))
    (answered : answer (validateVectors tree path) state = .ok report) :
    WithinReach tree (passingPart path) ∧ WithinReach tree (failingPart path) ∧
      ReportsVectors tree schemas path report := by
  rw [answer_validateVectors_of_hasDirectory afresh found] at answered
  cases passed : answer (runPart tree (passingPart path) true) (.fresh schemas) with
  | error failure => simp [passed, Except.bind] at answered
  | ok passing =>
      cases failed : answer (runPart tree (failingPart path) false) (.fresh schemas) with
      | error failure => simp [passed, failed, Except.bind, Except.map] at answered
      | ok failing =>
          simp only [passed, failed, Except.bind, Except.map, Except.ok.injEq] at answered
          subst answered
          obtain ⟨reach_passing, passing_names, passing_reports⟩ := reportsPart_of_answer passed
          obtain ⟨reach_failing, failing_names, failing_reports⟩ := reportsPart_of_answer failed
          refine ⟨reach_passing, reach_failing, rfl, ⟨_, passing_reports⟩, ⟨_, failing_reports⟩, ?_⟩
          rw [allPassed_iff, passing_reports.expected_iff, failing_reports.expected_iff]
          simp [Result.valid]

theorem exists_answer_allPassed_iff :
    (∃ report, answer (validateVectors tree path) (.fresh schemas) = .ok report ∧
        report.allPassed = true) ↔ VectorsPass tree schemas path := by
  have afresh := loadsAfresh_fresh schemas tree
  constructor
  · rintro ⟨report, answered, passed⟩
    have found : tree.HasDirectory (Path.ofString path) := by
      by_contra absent
      by_cases long : tree.IsTooLong (Path.ofString path)
      · rw [answer_validateVectors_of_isTooLong long] at answered
        cases answered
      · rw [answer_validateVectors_of_absent absent long] at answered
        cases answered
    obtain ⟨reach_passing, reach_failing, reports⟩ :=
      reportsVectors_of_answer afresh found answered
    obtain ⟨passing, failing⟩ := reports.allPassed.mp passed
    exact ⟨found, reach_passing, reach_failing, passing, failing⟩
  · rintro ⟨found, reach_passing, reach_failing, passing, failing⟩
    obtain ⟨passed, passed_eq⟩ := exists_answer_runPart true
      (fun name vector => (passing name vector).imp fun _ => And.left) reach_passing
    obtain ⟨failed, failed_eq⟩ := exists_answer_runPart false
      (fun name vector => (failing name vector).imp fun _ => And.left) reach_failing
    have answered := answer_validateVectors_of_hasDirectory afresh found
    rw [passed_eq, failed_eq] at answered
    have reports := (reportsVectors_of_answer afresh found answered).2.2
    exact ⟨_, answered, reports.allPassed.mpr ⟨passing, failing⟩⟩

end Run

end Service
end DiscoveryFiles
