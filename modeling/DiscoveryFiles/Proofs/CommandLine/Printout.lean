import DiscoveryFiles.Proofs.CommandLine.ExitStatus

/-!
# What a run prints

The text of a report consists of texts that are printed one after the other.  A run that is asked
for failing results only leaves out the renderings of the results that pass, except among test
vectors, where it prints all of them.
-/

namespace DiscoveryFiles

/-- The output for texts that are printed one after the other, each with a line feed behind it. -/
def printed (texts : List String) : String :=
  String.join (texts.map fun text => text ++ "\n")

@[simp]
theorem printed_nil : printed [] = "" := rfl

@[simp]
theorem printed_cons (text : String) (texts : List String) :
    printed (text :: texts) = text ++ "\n" ++ printed texts :=
  String.join_cons

@[simp]
theorem printed_append (first second : List String) :
    printed (first ++ second) = printed first ++ printed second := by
  simp [printed, String.join_append]

private theorem printed_flatMap {α : Type} (items : List α) (texts : α → List String) :
    printed (items.flatMap texts) = String.join (items.map fun item => printed (texts item)) := by
  induction items with
  | nil => rfl
  | cons item items induction => simp [induction, String.join_cons]

/-! ## Results -/

/-- The start of the rendering of a result tells whether it passes. -/
theorem Result.exists_render_eq (result : Result) :
    ∃ rest, result.render = (if result.valid then "[PASS] " else "[FAIL] ") ++ rest := by
  have opening :
      "[" ++ (if result.valid then "PASS" else "FAIL") ++ "] " ++ result.file ++ " (" ++
          result.type ++ ")" =
        (if result.valid then "[PASS] " else "[FAIL] ") ++
          (result.file ++ " (" ++ result.type ++ ")") := by
    split <;> simp [String.append_assoc]
  rw [Result.render, Result.renderLines]
  simp only [opening, List.cons_append, String.intercalate_cons_append]
  exact ⟨_, rfl⟩

/-- The texts printed for a result among others. -/
def Result.printout (quiet : Bool) (result : Result) : List String :=
  if quiet && result.valid then [] else [result.render, ""]

/-- The texts printed for a directory. -/
def DirectoryReport.printout (quiet : Bool) (report : DirectoryReport) : List String :=
  if report.results.isEmpty then
    ["No AI Discovery Files found in " ++ report.directory,
      "Looked for: " ++ String.intercalate ", " report.searched]
  else
    (report.results ++ report.cross.toList).flatMap (Result.printout quiet) ++
      ["Results: " ++ toString report.passed ++ "/" ++ toString report.total ++ " files passed"]

/-- The texts printed for a test vector. -/
def Outcome.printout (flag : String) (outcome : Outcome) : List String :=
  outcome.result.render :: (if outcome.unexpected then [flag] else []) ++ [""]

/-- The texts printed for test vectors. -/
def VectorReport.printout (report : VectorReport) : List String :=
  "=== Valid Test Vectors (should PASS) ===" :: "" ::
      report.passing.flatMap (Outcome.printout "  ^ UNEXPECTED FAILURE") ++
    "=== Invalid Test Vectors (should FAIL) ===" :: "" ::
      report.failing.flatMap (Outcome.printout
        "  ^ UNEXPECTED PASS — this file should have failed validation")

private theorem Result.renderBlock_eq (quiet : Bool) (result : Result) :
    result.renderBlock quiet = printed (result.printout quiet) := by
  rw [Result.renderBlock, Result.printout]
  split <;> simp [String.append_assoc]

private theorem DirectoryReport.render_eq (quiet : Bool) (report : DirectoryReport) :
    report.render quiet = printed (report.printout quiet) := by
  have blocks (results : List Result) : String.join (results.map (Result.renderBlock quiet)) =
      printed (results.flatMap (Result.printout quiet)) := by
    rw [printed_flatMap]
    simp only [← Result.renderBlock_eq]
  rw [DirectoryReport.render, DirectoryReport.printout]
  split
  · have lines : "\nLooked for: " = "\n" ++ "Looked for: " := rfl
    simp only [lines, printed_cons, printed_nil, String.append_assoc, String.append_empty]
  · rw [blocks]
    cases report.cross <;> simp [Result.renderBlock_eq, String.append_assoc]

private theorem Outcome.render_eq (flag : String) (outcome : Outcome) :
    outcome.render flag = printed (outcome.printout flag) := by
  rw [Outcome.render, Outcome.printout]
  split <;> simp [String.append_assoc]

private theorem VectorReport.render_eq (report : VectorReport) :
    report.render = printed report.printout := by
  have blocks (flag : String) (outcomes : List Outcome) :
      String.join (outcomes.map (Outcome.render flag)) =
        printed (outcomes.flatMap (Outcome.printout flag)) := by
    rw [printed_flatMap]
    simp only [← Outcome.render_eq]
  have gap (text : String) : text ++ "\n\n" = printed [text, ""] := by
    simp [String.append_assoc]
  simp only [VectorReport.render, VectorReport.renderSection, VectorReport.printout, blocks, gap,
    ← printed_append, List.cons_append, List.nil_append]

/-! ## Failing results only -/

/-- Whether a text starts like the rendering of a result that passes. -/
def AnnouncesPass (text : String) : Prop :=
  "[PASS] ".toList <+: text.toList

private theorem announcesPass_render_iff (result : Result) :
    AnnouncesPass result.render ↔ result.valid = true := by
  obtain ⟨rest, shape⟩ := result.exists_render_eq
  cases passes : result.valid <;> simp [AnnouncesPass, shape, passes, String.toList_append]

private theorem not_announcesPass_of_mem_result {result : Result} {text : String}
    (member : text ∈ result.printout true) : ¬ AnnouncesPass text := by
  cases passes : result.valid with
  | true => simp [Result.printout, passes] at member
  | false =>
      simp only [Result.printout, passes, Bool.and_false, Bool.false_eq_true, if_false,
        List.mem_cons, List.not_mem_nil, or_false] at member
      obtain rfl | rfl := member
      · simp [announcesPass_render_iff, passes]
      · simp [AnnouncesPass]

private theorem not_announcesPass_of_mem_directory {report : DirectoryReport} {text : String}
    (member : text ∈ report.printout true) : ¬ AnnouncesPass text := by
  rw [DirectoryReport.printout] at member
  split at member
  · simp only [List.mem_cons, List.not_mem_nil, or_false] at member
    obtain rfl | rfl := member <;> simp [AnnouncesPass, String.toList_append]
  · rw [List.mem_append, List.mem_flatMap, List.mem_singleton] at member
    obtain ⟨result, -, member⟩ | rfl := member
    · exact not_announcesPass_of_mem_result member
    · simp [AnnouncesPass, String.toList_append]

/-- For a directory, the failing results are printed, and no other result is. -/
theorem DirectoryReport.render_mem_printout_iff {report : DirectoryReport} {result : Result}
    (listed : result ∈ report.results) :
    result.render ∈ report.printout true ↔ result.valid = false := by
  constructor
  · -- The rendering of another failing result cannot be mistaken for that of one that passes.
    intro member
    have fails := not_announcesPass_of_mem_directory member
    rw [announcesPass_render_iff] at fails
    simpa using fails
  · intro fails
    have given : report.results.isEmpty = false := by
      simpa using List.ne_nil_of_mem listed
    simp only [DirectoryReport.printout, given, Bool.false_eq_true, if_false]
    refine List.mem_append_left _ (List.mem_flatMap.mpr ⟨result, by simp [listed], ?_⟩)
    simp [Result.printout, fails]

/-- Of test vectors, all results are printed. -/
theorem VectorReport.render_mem_printout {report : VectorReport} {outcome : Outcome}
    (listed : outcome ∈ report.passing ++ report.failing) :
    outcome.result.render ∈ report.printout := by
  have printed (flag : String) : outcome.result.render ∈ outcome.printout flag :=
    List.mem_append_left _ List.mem_cons_self
  rw [VectorReport.printout]
  obtain passing | failing := List.mem_append.mp listed
  · refine List.mem_append_left _ ?_
    exact List.mem_cons_of_mem _ (List.mem_cons_of_mem _
      (List.mem_flatMap.mpr ⟨outcome, passing, printed _⟩))
  · refine List.mem_append_right _ ?_
    exact List.mem_cons_of_mem _ (List.mem_cons_of_mem _
      (List.mem_flatMap.mpr ⟨outcome, failing, printed _⟩))

namespace CommandLine

open Service

/-! ## Runs -/

/-- What a check has found out, before it is written as a report. -/
inductive Checked where
  /-- The result for a file. -/
  | file (result : Result)
  /-- The report on a directory. -/
  | directory (report : DirectoryReport)
  /-- The report on test vectors. -/
  | testVectors (report : VectorReport)

namespace Checked

/-- The results for the files that were checked. -/
def results : Checked → List Result
  | file result => [result]
  | directory report => report.results
  | testVectors report => (report.passing ++ report.failing).map Outcome.result

/-- The texts that are printed for a check. -/
def printout (quiet : Bool) : Checked → List String
  | file result => if quiet && result.valid then [] else [result.render]
  | directory report => report.printout quiet
  | testVectors report => report.printout

/-- The report that is written for a check. -/
def report (options : Options) : Checked → Report
  | file result => fileReport options result
  | directory report => directoryReport options report
  | testVectors report => vectorReport options report

private theorem text_report {options : Options} (asText : options.format = .text)
    (checked : Checked) :
    (checked.report options).text = printed (checked.printout options.quiet) := by
  cases checked with
  | file result =>
      simp only [report, fileReport, asText, printout]
      split <;> simp
  | directory report =>
      simp only [Checked.report, directoryReport, asText, printout, report.render_eq]
  | testVectors report =>
      simp only [Checked.report, vectorReport, asText, printout, report.render_eq]

end Checked

/-- Check a target. -/
def examine (surroundings : Surroundings) (fileType : Option String) : Target → Service Checked
  | .file path => do
      let place ← surroundings.resolve path
      .file <$> validateFile surroundings.tree place.words fileType
  | .directory path => do
      let place ← surroundings.resolve path
      .directory <$> validateDirectory surroundings.tree place.words
  | .testVectors path => do
      let place ← surroundings.resolve path
      .testVectors <$> validateVectors surroundings.tree place.words

private theorem answer_map {α β : Type} (tell : α → β) (request : Service α)
    (state : ServiceState) :
    answer (tell <$> request) state = (answer request state).map tell := by
  rw [map_eq_pure_bind, answer_bind]
  cases answer request state <;> rfl

section Run

variable {surroundings : Surroundings} {options : Options} {target : Target}

theorem check_eq : check surroundings options target =
    Checked.report options <$> examine surroundings options.fileType target := by
  cases target <;> simp [check, examine, Checked.report]

theorem answer_check (state : ServiceState) :
    answer (check surroundings options target) state =
      (answer (examine surroundings options.fileType target) state).map
        (Checked.report options) := by
  rw [check_eq, answer_map]

/-- What a check at a place has found out. -/
theorem answer_place {α : Type} {path : String} {request : Path → Service α}
    {tell : α → Checked} {state : ServiceState} :
    answer (do let place ← surroundings.resolve path; tell <$> request place) state =
      (surroundings.resolve path).bind fun place => (answer (request place) state).map tell := by
  rw [answer_bind, answer_lift, after_lift]
  cases surroundings.resolve path with
  | error failure => rfl
  | ok place => exact answer_map tell (request place) state

private theorem exists_of_answer_place {α : Type} {path : String} {request : Path → Service α}
    {tell : α → Checked} {state : ServiceState} {checked : Checked}
    (answered :
      answer (do let place ← surroundings.resolve path; tell <$> request place) state =
        .ok checked) : ∃ value, checked = tell value := by
  rw [answer_place] at answered
  cases resolved : surroundings.resolve path with
  | error failure => simp [resolved, Except.bind] at answered
  | ok place =>
      cases requested : answer (request place) state with
      | error failure => simp [resolved, requested, Except.bind, Except.map] at answered
      | ok value =>
          simp only [resolved, requested, Except.bind, Except.map, Except.ok.injEq] at answered
          exact ⟨value, answered.symm⟩

/-- What a run prints is the text of the report, if there is one. -/
theorem output_runTarget {settings : Settings} :
    (runTarget surroundings options settings target).output =
      match answer (check surroundings options target) (.fresh settings.schemas) with
      | .ok report => report.text
      | .error _ => "" := by
  have ran_eq : answer (check surroundings options target) (.fresh settings.schemas) =
      ((check surroundings options target).run (.fresh settings.schemas)).run.1 := rfl
  rw [runTarget, ran_eq]
  generalize ((check surroundings options target).run (.fresh settings.schemas)).run = ran
  obtain ⟨outcome, state⟩ := ran
  cases outcome with
  | ok report => rfl
  | error failure =>
      dsimp only
      split <;> rfl

theorem run_of_asksFor {arguments : List String} (accepted : read arguments = .options options)
    (asked : options.AsksFor target) {settings : Settings}
    (set : surroundings.settings options = .ok settings) :
    run surroundings arguments = runTarget surroundings options settings target := by
  have targeted := (target?_eq_some_iff (exclusive_of_read accepted)).mpr asked
  simp only [run, accepted, runOptions, targeted, set]

section Output

variable {arguments : List String} {settings : Settings}
  (accepted : read arguments = .options options) (asked : options.AsksFor target)
  (set : surroundings.settings options = .ok settings)

include accepted asked set

/-- A run prints what a check has found out. -/
theorem output_run_of_ok (asText : options.format = .text) {checked : Checked}
    (examined : answer (examine surroundings options.fileType target) (.fresh settings.schemas) =
      .ok checked) :
    (run surroundings arguments).output = printed (checked.printout options.quiet) := by
  rw [run_of_asksFor accepted asked set, output_runTarget, answer_check, examined]
  exact checked.text_report asText

/-- A run prints nothing if the check fails. -/
theorem output_run_of_error {failure : Failure}
    (failed : answer (examine surroundings options.fileType target) (.fresh settings.schemas) =
      .error failure) :
    (run surroundings arguments).output = "" := by
  rw [run_of_asksFor accepted asked set, output_runTarget, answer_check, failed]
  rfl

end Output

/-- A quiet run prints the results that have errors, and no others, for a file and for a directory.
Of test vectors it prints all results. -/
theorem run_quiet_prints (surroundings : Surroundings) {arguments : List String}
    (accepted : read arguments = .options options) (quiet : options.quiet = true)
    (asText : options.format = .text) (asked : options.AsksFor target) {settings : Settings}
    (set : surroundings.settings options = .ok settings) :
    let examined := answer (examine surroundings options.fileType target) (.fresh settings.schemas)
    (∀ failure, examined = .error failure → (run surroundings arguments).output = "") ∧
    ∀ checked, examined = .ok checked →
      (run surroundings arguments).output = printed (checked.printout true) ∧
      ∀ result ∈ checked.results, result.render ∈ checked.printout true ↔
        result.findings.errors ≠ [] ∨ ∃ path, target = .testVectors path := by
  intro examined
  refine ⟨fun failure failed => output_run_of_error accepted asked set failed,
    fun checked answered => ⟨?_, fun result listed => ?_⟩⟩
  · rw [output_run_of_ok accepted asked set asText answered, quiet]
  · have fails_iff : result.valid = false ↔ result.findings.errors ≠ [] := by
      simp [Result.valid]
    cases target with
    | file path =>
        obtain ⟨only, rfl⟩ := exists_of_answer_place answered
        obtain rfl := List.mem_singleton.mp listed
        rw [← fails_iff]
        cases passes : result.valid <;> simp [Checked.printout, passes]
    | directory path =>
        obtain ⟨report, rfl⟩ := exists_of_answer_place answered
        rw [← fails_iff]
        simpa [Checked.printout] using report.render_mem_printout_iff listed
    | testVectors path =>
        obtain ⟨report, rfl⟩ := exists_of_answer_place answered
        obtain ⟨outcome, member, rfl⟩ := List.mem_map.mp listed
        exact iff_of_true (report.render_mem_printout member) (.inr ⟨path, rfl⟩)

/-- The settings of a run without variables and options for them. -/
theorem settings_of_unset (unset : surroundings.assignments = [])
    (bundled : options.schemaDirectory = none) (calm : options.verbose = false) :
    surroundings.settings options = .ok ⟨surroundings.schemas, 30⟩ := by
  have level : String.ofList (Text.upper "WARNING".toList) = "WARNING" := by decide +kernel
  have known : Level.threshold? "WARNING" = some 30 := rfl
  simp only [Surroundings.settings, Surroundings.setting?, unset, bundled, calm, List.reverse_nil,
    List.find?_nil, Option.map_none, Option.getD_none, Option.all_none, Bool.not_true,
    Bool.false_eq_true, if_false, level, known]
  rfl

end Run

/-- A quiet run on a directory with an empty file prints the result for this file. -/
theorem run_quiet_prints_nested :
    let surroundings : Surroundings := ⟨nestedTree, [], ⟨['/'], []⟩, isPort⟩
    let options := { Options.initial with directory := some "llms.txt", quiet := true }
    let result : Result := ⟨"/llms.txt/ai.txt", "ai-txt", .error "File is empty"⟩
    read ["--dir", "llms.txt", "--quiet"] = .options options ∧
      ∃ checked : Checked,
        (run surroundings ["--dir", "llms.txt", "--quiet"]).output =
          printed (checked.printout true) ∧
        result ∈ checked.results ∧ result.render ∈ checked.printout true := by
  intro surroundings options result
  have accepted : read ["--dir", "llms.txt", "--quiet"] = .options options := by decide +kernel
  have asked : options.AsksFor (.directory "llms.txt") := by
    rw [asksFor_iff]
    decide
  have set : surroundings.settings options = .ok ⟨⟨['/'], []⟩, 30⟩ := settings_of_unset rfl rfl rfl
  have scanned : answer (validateDirectory nestedTree "/llms.txt") (.fresh ⟨['/'], []⟩) =
      .ok (reportOn "/llms.txt" [result]) := rfl
  have examined : answer (examine surroundings none (.directory "llms.txt")) (.fresh ⟨['/'], []⟩) =
      .ok (.directory (reportOn "/llms.txt" [result])) := by
    have resolved : surroundings.resolve "llms.txt" = .ok ⟨['/'], ["llms.txt".toList]⟩ := rfl
    rw [examine, answer_place, resolved]
    exact congrArg (Except.map Checked.directory) scanned
  obtain ⟨-, reports⟩ := run_quiet_prints surroundings accepted rfl rfl asked set
  obtain ⟨output_eq, shown_iff⟩ := reports _ examined
  have listed : result ∈ Checked.results (.directory (reportOn "/llms.txt" [result])) :=
    List.mem_singleton_self result
  have fails : result.findings.errors ≠ [] := List.cons_ne_nil _ _
  exact ⟨accepted, _, output_eq, listed, (shown_iff result listed).mpr (.inl fails)⟩

/-- A tree with one test vector, which should pass and does. -/
def passingTree : FileTree :=
  ⟨.directory [("valid".toList, .directory [("robots-ai.txt".toList, .file [97, 105])])],
    ⟨['/'], []⟩, []⟩

/-- The result for this test vector. -/
def passingResult : Result :=
  ⟨"/valid/robots-ai.txt", "robots-ai-txt",
    .warning "File SHOULD reference AI crawlers or define access policies"⟩

private theorem answer_validateVectors_passingTree :
    answer (validateVectors passingTree "/") (.fresh ⟨['/'], []⟩) =
      .ok ⟨"/", [⟨passingResult, true⟩], []⟩ := by
  have found : passingTree.HasDirectory (Path.ofString "/") :=
    FileTree.isDirectory_eq_true_iff.mp rfl
  have names : passingTree.list (passingPart "/") = ["robots-ai.txt".toList] := by
    have entry : passingTree.entry (passingPart "/") =
        .ok (.directory [("robots-ai.txt".toList, .file [97, 105])]) := rfl
    rw [FileTree.list, entry]
    exact List.mergeSort_singleton _
  have passed : answer (runPart passingTree (passingPart "/") true) (.fresh ⟨['/'], []⟩) =
      .ok [⟨passingResult, true⟩] := by
    have there : passingTree.isDirectory (passingPart "/") = .ok true := rfl
    rw [runPart, there, names]
    rfl
  have failed : answer (runPart passingTree (failingPart "/") false) (.fresh ⟨['/'], []⟩) =
      .ok [] := rfl
  rw [answer_validateVectors_of_hasDirectory (loadsAfresh_fresh _ _) found, passed, failed]
  rfl

/-- The result for the test vector has no errors, and a quiet run prints it. -/
theorem run_quiet_passingTree :
    let surroundings : Surroundings := ⟨passingTree, [], ⟨['/'], []⟩, isPort⟩
    let options := { Options.initial with testVectors := some ".", quiet := true }
    let checked : Checked := .testVectors ⟨"/", [⟨passingResult, true⟩], []⟩
    read ["--test-vectors", ".", "--quiet"] = .options options ∧
      answer (examine surroundings none (.testVectors ".")) (.fresh ⟨['/'], []⟩) = .ok checked ∧
      passingResult ∈ checked.results ∧ passingResult.findings.errors = [] ∧
      (run surroundings ["--test-vectors", ".", "--quiet"]).output =
        printed (checked.printout true) ∧
      passingResult.render ∈ checked.printout true := by
  intro surroundings options checked
  have accepted : read ["--test-vectors", ".", "--quiet"] = .options options := by decide +kernel
  have asked : options.AsksFor (.testVectors ".") := by
    rw [asksFor_iff]
    decide
  have set : surroundings.settings options = .ok ⟨⟨['/'], []⟩, 30⟩ := settings_of_unset rfl rfl rfl
  have examined : answer (examine surroundings none (.testVectors ".")) (.fresh ⟨['/'], []⟩) =
      .ok checked := by
    have resolved : surroundings.resolve "." = .ok ⟨['/'], []⟩ := rfl
    rw [examine, answer_place, resolved]
    exact congrArg (Except.map Checked.testVectors) answer_validateVectors_passingTree
  have output_eq : (run surroundings ["--test-vectors", ".", "--quiet"]).output =
      printed (checked.printout true) := output_run_of_ok accepted asked set rfl examined
  have shown : (⟨passingResult, true⟩ : DiscoveryFiles.Outcome).result.render ∈
      VectorReport.printout ⟨"/", [⟨passingResult, true⟩], []⟩ :=
    VectorReport.render_mem_printout (List.mem_singleton_self _)
  exact ⟨accepted, examined, List.mem_singleton_self _, rfl, output_eq, shown⟩

end CommandLine
end DiscoveryFiles
