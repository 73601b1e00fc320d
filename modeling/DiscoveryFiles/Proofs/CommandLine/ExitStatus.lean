import DiscoveryFiles.CommandLine.Port
import DiscoveryFiles.CommandLine.Run
import DiscoveryFiles.Proofs.CommandLine.Options
import DiscoveryFiles.Proofs.Service.Directory
import DiscoveryFiles.Proofs.Service.Vectors

/-!
# The status of a run

A run succeeds if what it was asked to check is there and passes, or if it was not asked to check
anything.  A target without a name counts as none.
-/

namespace DiscoveryFiles
namespace CommandLine

open Service

/-! ## What is asked for -/

/-- The value that a target is given with. -/
def Target.value : Target → String
  | file path | directory path | testVectors path => path

/-- The targets that are given, with whatever value. -/
def Options.given (options : Options) : List Target :=
  (options.file.map Target.file).toList ++ (options.directory.map Target.directory).toList ++
    (options.testVectors.map Target.testVectors).toList

/-- A target is the only one that is given with a value that is not empty. -/
def Options.AsksFor (options : Options) (target : Target) : Prop :=
  target ∈ options.given ∧ target.value ≠ "" ∧
    ∀ other ∈ options.given, other.value ≠ "" → other = target

section Asking

variable {options : Options} {target : Target}

private theorem filled?_eq_none_iff {given : Option String} :
    filled? given = none ↔ ∀ value ∈ given, value = "" := by
  rw [filled?.eq_def]
  split <;> simp_all

private theorem filled?_eq_some_iff {given : Option String} {value : String} :
    filled? given = some value ↔ value ∈ given ∧ value ≠ "" := by
  rw [filled?.eq_def]
  split
  · simp
  · simp
  next given other =>
    simp only [Option.some.injEq, Option.mem_def, iff_self_and]
    rintro rfl
    exact other

private theorem forall_given_iff {property : Target → Prop} :
    (∀ target ∈ options.given, property target) ↔
      (∀ path ∈ options.file, property (.file path)) ∧
        (∀ path ∈ options.directory, property (.directory path)) ∧
          ∀ path ∈ options.testVectors, property (.testVectors path) := by
  simp [Options.given, or_imp, forall_and]

private theorem target?_eq_none_iff :
    options.target? = .ok none ↔ ∀ target ∈ options.given, target.value = "" := by
  rw [forall_given_iff]
  simp only [Target.value, ← filled?_eq_none_iff]
  rw [Options.target?.eq_def]
  split <;> simp_all

theorem asksFor_iff :
    options.AsksFor target ↔
      match target with
      | .file path => filled? options.file = some path ∧
          filled? options.directory = none ∧ filled? options.testVectors = none
      | .directory path => filled? options.file = none ∧
          filled? options.directory = some path ∧ filled? options.testVectors = none
      | .testVectors path => filled? options.file = none ∧
          filled? options.directory = none ∧ filled? options.testVectors = some path := by
  rw [Options.AsksFor, forall_given_iff]
  cases target <;>
    simp [Options.given, filled?_eq_none_iff, filled?_eq_some_iff, Target.value] <;> grind

/-- With options that exclude each other, the target is the only one that has a name. -/
theorem target?_eq_some_iff (exclusive : options.Exclusive) :
    options.target? = .ok (some target) ↔ options.AsksFor target := by
  have apart : filled? options.directory = none ∨ filled? options.testVectors = none :=
    exclusive.imp (fun absent => by rw [absent]; rfl) (fun absent => by rw [absent]; rfl)
  rw [asksFor_iff, Options.target?.eq_def]
  split <;> cases target <;> simp_all

end Asking

/-! ## Passing -/

/-- There is a file, and it has a result without errors. -/
structure FilePasses (tree : FileTree) (schemas : Path) (path : String)
    (fileType : Option String) : Prop where
  /-- The file is there. -/
  found : tree.HasFile (Path.ofString path)
  /-- The file has a result without errors. -/
  result : ∃ result, answer (validateFile tree path fileType) (.fresh schemas) = .ok result ∧
    result.findings.errors = []

/-- A target is there and passes. -/
def Passes (surroundings : Surroundings) (schemas : Path) (fileType : Option String)
    (target : Target) : Prop :=
  ∃ place, surroundings.resolve target.value = .ok place ∧
    match target with
    | .file _ => FilePasses surroundings.tree schemas place.words fileType
    | .directory _ => DirectoryPasses surroundings.tree schemas place.words
    | .testVectors _ => VectorsPass surroundings.tree schemas place.words

section Checking

variable {surroundings : Surroundings} {options : Options} {schemas : Path}

private theorem filePasses_iff {tree : FileTree} {path : String} {fileType : Option String} :
    FilePasses tree schemas path fileType ↔
      ∃ result, answer (validateFile tree path fileType) (.fresh schemas) = .ok result ∧
        result.findings.errors = [] := by
  refine ⟨FilePasses.result, fun ⟨result, answered, clean⟩ => ⟨?_, result, answered, clean⟩⟩
  rw [answer_validateFile] at answered
  split at answered
  · cases answered
  · cases answered
  next found => exact FileTree.isFile_eq_true_iff.mp found

/-- A report that is made of an answer for a path of the command line. -/
theorem exists_answer_report_iff {α : Type} {path : String} {request : Path → Service α}
    {write : α → Report} {state : ServiceState} :
    (∃ report,
        answer (do let place ← surroundings.resolve path; return write (← request place)) state =
          .ok report ∧ report.success = true) ↔
      ∃ place, surroundings.resolve path = .ok place ∧
        ∃ value, answer (request place) state = .ok value ∧ (write value).success = true := by
  rw [answer_bind, answer_lift, after_lift]
  cases surroundings.resolve path with
  | error failure => simp
  | ok place =>
      simp only [answer_bind, answer_pure]
      cases answered : answer (request place) state <;> simp [answered]

/-- The report on a target is a success if the target is there and passes. -/
theorem exists_answer_success_iff (target : Target) :
    (∃ report, answer (check surroundings options target) (.fresh schemas) = .ok report ∧
        report.success = true) ↔
      Passes surroundings schemas options.fileType target := by
  cases target with
  | file path =>
      refine exists_answer_report_iff.trans ?_
      simp [Passes, Target.value, filePasses_iff, fileReport, Result.valid]
  | directory path =>
      refine exists_answer_report_iff.trans ?_
      simp only [Passes, Target.value, ← exists_answer_valid_iff]
      rfl
  | testVectors path =>
      refine exists_answer_report_iff.trans ?_
      simp only [Passes, Target.value, ← exists_answer_allPassed_iff]
      rfl

/-! ## The status -/

theorem ending_runTarget {settings : Settings} {target : Target} :
    (runTarget surroundings options settings target).ending =
      match answer (check surroundings options target) (.fresh settings.schemas) with
      | .ok report => .exit (if report.success then 0 else 1)
      | .error failure => if failure.title?.isSome then .exit 1 else .failed failure := by
  have ran_eq : answer (check surroundings options target) (.fresh settings.schemas) =
      ((check surroundings options target).run (.fresh settings.schemas)).run.1 := rfl
  rw [runTarget, ran_eq]
  generalize ((check surroundings options target).run (.fresh settings.schemas)).run = ran
  obtain ⟨outcome, state⟩ := ran
  cases outcome with
  | ok report => rfl
  | error failure =>
      dsimp only
      split <;> rfl

private theorem title?_of_resolve_eq_error {path : String} {failure : Failure}
    (failed : surroundings.resolve path = .error failure) : failure.title? = none := by
  rw [Surroundings.resolve] at failed
  split at failed
  · obtain rfl := Except.error.inj failed
    rfl
  · cases failed

/-- Settings that cannot be used are not foreseen. -/
theorem title?_of_settings_eq_error {failure : Failure}
    (failed : surroundings.settings options = .error failure) : failure.title? = none := by
  simp only [Surroundings.settings, bind, Except.bind, pure, Except.pure] at failed
  split at failed
  · obtain rfl := Except.error.inj failed
    rfl
  split at failed
  · split at failed
    next path _ other resolved =>
      obtain rfl := Except.error.inj failed
      exact title?_of_resolve_eq_error resolved
    · split at failed
      · cases failed
      · obtain rfl := Except.error.inj failed
        rfl
  · split at failed
    · cases failed
    · obtain rfl := Except.error.inj failed
      rfl

private theorem ending_runTarget_eq_zero_iff {settings : Settings} {target : Target} :
    (runTarget surroundings options settings target).ending = .exit 0 ↔
      Passes surroundings settings.schemas options.fileType target := by
  rw [ending_runTarget, ← exists_answer_success_iff]
  cases answer (check surroundings options target) (.fresh settings.schemas) with
  | ok report => cases succeeded : report.success <;> simp [succeeded]
  | error failure => by_cases foreseen : failure.title?.isSome = true <;> simp [foreseen]

/-- A run that was asked for a target by name ends as checking the target does. -/
theorem ending_runOptions_of_asksFor (exclusive : options.Exclusive) {target : Target}
    (asked : options.AsksFor target) :
    (runOptions surroundings options).ending =
      match surroundings.settings options with
      | .error failure => .failed failure
      | .ok settings => (runTarget surroundings options settings target).ending := by
  rw [runOptions, (target?_eq_some_iff exclusive).mpr asked]
  cases surroundings.settings options <;> rfl

private theorem runOptions_of_unnamed (unnamed : ∀ target ∈ options.given, target.value = "") :
    runOptions surroundings options = ⟨.exit 0, helpText, ""⟩ := by
  rw [runOptions, target?_eq_none_iff.mpr unnamed]

/-- A run is misused, is not asked for anything by name, or is asked for one target. -/
theorem runOptions_cases (surroundings : Surroundings) (exclusive : options.Exclusive) :
    (runOptions surroundings options).ending = .exit 2 ∨
      (∀ target ∈ options.given, target.value = "") ∨ ∃ target, options.AsksFor target := by
  cases asked : options.target? with
  | error message =>
      left
      rw [runOptions, asked]
  | ok target =>
      cases target with
      | none => exact .inr (.inl (target?_eq_none_iff.mp asked))
      | some target => exact .inr (.inr ⟨target, (target?_eq_some_iff exclusive).mp asked⟩)

/-- A failure that a run does not turn into a status is not foreseen. -/
theorem title?_of_ending_eq_failed (exclusive : options.Exclusive) {failure : Failure}
    (failed : (runOptions surroundings options).ending = .failed failure) :
    failure.title? = none := by
  rcases runOptions_cases surroundings exclusive with misused | unnamed | ⟨target, asked⟩
  · rw [misused] at failed
    cases failed
  · rw [runOptions_of_unnamed unnamed] at failed
    cases failed
  · rw [ending_runOptions_of_asksFor exclusive asked] at failed
    split at failed
    next other set =>
      obtain rfl := Ending.failed.inj failed
      exact title?_of_settings_eq_error set
    · rw [ending_runTarget] at failed
      split at failed
      · cases failed
      · split at failed
        · cases failed
        next unforeseen =>
          obtain rfl := Ending.failed.inj failed
          simpa using unforeseen

/-- A run succeeds if the one target that has a name is there and passes, and also if no target has
a name.  All foreseen failures lead to one status. -/
theorem exit_zero_iff_passes (surroundings : Surroundings) {arguments : List String}
    (accepted : read arguments = .options options) :
    ((run surroundings arguments).ending = .exit 0 ↔
      (∀ target ∈ options.given, target.value = "") ∨
        ∃ target settings, options.AsksFor target ∧ surroundings.settings options = .ok settings ∧
          Passes surroundings settings.schemas options.fileType target) ∧
    ((∀ target ∈ options.given, target.value = "") →
      run surroundings arguments = ⟨.exit 0, helpText, ""⟩) ∧
    (∀ target settings failure, options.AsksFor target →
      surroundings.settings options = .ok settings →
      answer (check surroundings options target) (.fresh settings.schemas) = .error failure →
      failure.title?.isSome = true → (run surroundings arguments).ending = .exit 1) ∧
    (∀ failure, (run surroundings arguments).ending = .failed failure →
      failure.title? = none) := by
  have exclusive := exclusive_of_read accepted
  have run_eq : run surroundings arguments = runOptions surroundings options := by
    rw [run, accepted]
  rw [run_eq]
  refine ⟨⟨fun succeeded => ?_, ?_⟩, runOptions_of_unnamed,
    fun target settings failure asked set failed foreseen => ?_,
    fun failure => title?_of_ending_eq_failed exclusive⟩
  · rcases runOptions_cases surroundings exclusive with misused | unnamed | ⟨target, asked⟩
    · rw [misused] at succeeded
      cases succeeded
    · exact .inl unnamed
    · rw [ending_runOptions_of_asksFor exclusive asked] at succeeded
      split at succeeded
      · cases succeeded
      next settings set =>
        exact .inr ⟨target, settings, asked, set, ending_runTarget_eq_zero_iff.mp succeeded⟩
  · rintro (unnamed | ⟨target, settings, asked, set, passes⟩)
    · rw [runOptions_of_unnamed unnamed]
    · rw [ending_runOptions_of_asksFor exclusive asked, set]
      exact ending_runTarget_eq_zero_iff.mpr passes
  · rw [ending_runOptions_of_asksFor exclusive asked, set]
    simp [ending_runTarget, failed, foreseen]

end Checking

/-- A run on a directory with an empty file does not succeed. -/
theorem exit_zero_iff_passes_nested :
    read ["--dir", "llms.txt"] =
        .options { Options.initial with directory := some "llms.txt" } ∧
      (run ⟨nestedTree, [], ⟨['/'], []⟩, isPort⟩ ["--dir", "llms.txt"]).ending ≠ .exit 0 := by
  have accepted : read ["--dir", "llms.txt"] =
      .options { Options.initial with directory := some "llms.txt" } := by decide +kernel
  refine ⟨accepted, fun succeeded => ?_⟩
  obtain ⟨succeeds_iff, -⟩ := exit_zero_iff_passes ⟨nestedTree, [], ⟨['/'], []⟩, isPort⟩ accepted
  rcases succeeds_iff.mp succeeded with unnamed | ⟨target, settings, ⟨given, -⟩, -, passes⟩
  · exact absurd (unnamed (.directory "llms.txt") (by simp [Options.given])) (by decide)
  · obtain rfl : target = .directory "llms.txt" := by
      simpa [Options.given, Options.initial] using given
    obtain ⟨place, resolved, passes⟩ := passes
    obtain rfl := Except.ok.inj resolved
    obtain ⟨result, answered, clean⟩ := passes.files .aiTxt (.inl (by decide))
    obtain rfl : _ = result := Except.ok.inj answered
    cases clean

/-- A file without a name does not pass, yet a run that is asked for it succeeds. -/
theorem run_unnamedFile :
    read [""] = .options { Options.initial with file := some "" } ∧
      (∀ schemas, ¬ Passes ⟨nestedTree, [], ⟨['/'], []⟩, isPort⟩ schemas none (.file "")) ∧
      run ⟨nestedTree, [], ⟨['/'], []⟩, isPort⟩ [""] = ⟨.exit 0, helpText, ""⟩ := by
  have accepted : read [""] = .options { Options.initial with file := some "" } := by decide +kernel
  refine ⟨accepted, fun schemas passes => ?_, ?_⟩
  · obtain ⟨place, resolved, passes⟩ := passes
    obtain rfl := Except.ok.inj resolved
    exact absurd passes.found (by decide)
  · rw [run, accepted]
    exact runOptions_of_unnamed (by simp [Options.given, Options.initial, Target.value])

end CommandLine
end DiscoveryFiles
