import DiscoveryFiles.Proofs.CommandLine.Printout
import DiscoveryFiles.Proofs.CommandLine.Verbose
import DiscoveryFiles.Proofs.Service.Avoidance

/-!
# The level of the log

Which notes of the log are shown depends on a variable and on an option.  They have no influence on
how a run ends and on what it prints as long as they name a known level.  With an unknown level, a
run that comes to set up its log fails.
-/

namespace DiscoveryFiles
namespace CommandLine

open Service

/-- Surroundings that differ at most in the variable for the level of the log. -/
structure Surroundings.AlikeButLevel (first second : Surroundings) : Prop where
  /-- The files are the same. -/
  tree : first.tree = second.tree
  /-- The schemas that come with the program are the same. -/
  schemas : first.schemas = second.schemas
  /-- The same ports are accepted. -/
  acceptsPort : first.acceptsPort = second.acceptsPort
  /-- The other variables have the same values. -/
  setting : ∀ name, Text.lower name.toList ≠ Text.lower "ADF_LOG_LEVEL".toList →
    first.setting? name = second.setting? name

/-- The name of the level from which notes are shown. -/
def Surroundings.levelName (surroundings : Surroundings) (options : Options) : String :=
  if options.verbose then "DEBUG"
  else
    String.ofList (Text.upper ((surroundings.setting? "ADF_LOG_LEVEL").getD "WARNING").toList)

/-- The directory of the schemas, which is settled before the level of the log. -/
def Surroundings.schemaDirectory (surroundings : Surroundings) (options : Options) :
    Except Failure Path :=
  if !(surroundings.setting? "ADF_PORT").all surroundings.acceptsPort then .error .badSetting
  else
    match options.schemaDirectory with
    | some path => surroundings.resolve path
    | none =>
        .ok (((surroundings.setting? "ADF_SCHEMA_DIR").map Path.ofString).getD surroundings.schemas)

/-- Whether a run comes to set up its log: it has a target, and its other settings can be used. -/
def Surroundings.SetsUpLog (surroundings : Surroundings) (options : Options) : Prop :=
  (∃ target, options.target? = .ok (some target)) ∧
    ∃ schemas, surroundings.schemaDirectory options = .ok schemas

/-- Whether a name stands for a level of the log. -/
def IsLevel (name : String) : Prop :=
  (Level.threshold? name).isSome = true

instance (name : String) : Decidable (IsLevel name) :=
  inferInstanceAs (Decidable (_ = true))

section Setting

variable {surroundings : Surroundings} {options : Options}

private theorem settings_eq : surroundings.settings options =
    (surroundings.schemaDirectory options).bind fun schemas =>
      match Level.threshold? (surroundings.levelName options) with
      | some threshold => .ok ⟨schemas, threshold⟩
      | none => .error (.unknownLevel (surroundings.levelName options)) := by
  simp only [Surroundings.settings, Surroundings.schemaDirectory, Surroundings.levelName]
  cases (surroundings.setting? "ADF_PORT").all surroundings.acceptsPort with
  | false => rfl
  | true =>
      cases options.schemaDirectory with
      | none => rfl
      | some path => cases surroundings.resolve path <;> rfl

private theorem schemaDirectory_of_settings {settings : Settings}
    (set : surroundings.settings options = .ok settings) :
    surroundings.schemaDirectory options = .ok settings.schemas := by
  rw [settings_eq] at set
  cases located : surroundings.schemaDirectory options with
  | error failure => simp [located, Except.bind] at set
  | ok schemas =>
      simp only [located, Except.bind] at set
      split at set
      · obtain rfl := Except.ok.inj set
        rfl
      · cases set

section Reached

variable {target : Target} {schemas : Path} (targeted : options.target? = .ok (some target))
  (located : surroundings.schemaDirectory options = .ok schemas)

include targeted located

private theorem runOptions_of_isLevel (known : IsLevel (surroundings.levelName options)) :
    ∃ threshold, runOptions surroundings options =
      runTarget surroundings options ⟨schemas, threshold⟩ target := by
  obtain ⟨threshold, found⟩ := Option.isSome_iff_exists.mp known
  refine ⟨threshold, ?_⟩
  simp only [runOptions, targeted, settings_eq, located, Except.bind, found]

private theorem runOptions_of_not_isLevel (unknown : ¬ IsLevel (surroundings.levelName options)) :
    runOptions surroundings options =
      ⟨.failed (.unknownLevel (surroundings.levelName options)), "", ""⟩ := by
  have missing : Level.threshold? (surroundings.levelName options) = none := by
    simpa [IsLevel] using unknown
  simp only [runOptions, targeted, settings_eq, located, Except.bind, missing]

end Reached

private theorem resolve_ne_unknownLevel (path name : String) :
    surroundings.resolve path ≠ .error (.unknownLevel name) := by
  rw [Surroundings.resolve]
  split <;> simp

/-- No check fails because of a level. -/
theorem avoids_check (name : String) (target : Target) :
    Avoids (.unknownLevel name) (check surroundings options target) := by
  cases target with
  | file path =>
      refine (avoids_lift (resolve_ne_unknownLevel path name)).bind fun place => ?_
      exact (avoids_validateFile _ _).bind fun result => avoids_pure _
  | directory path =>
      refine (avoids_lift (resolve_ne_unknownLevel path name)).bind fun place => ?_
      exact (avoids_validateDirectory _).bind fun report => avoids_pure _
  | testVectors path =>
      refine (avoids_lift (resolve_ne_unknownLevel path name)).bind fun place => ?_
      exact (avoids_validateVectors _).bind fun report => avoids_pure _

private theorem ending_runTarget_ne (name : String) (settings : Settings) (target : Target) :
    (runTarget surroundings options settings target).ending ≠ .failed (.unknownLevel name) := by
  rw [ending_runTarget]
  have avoided : Avoids (.unknownLevel name) (check surroundings options target) :=
    avoids_check name target
  cases answered : answer (check surroundings options target) (.fresh settings.schemas) with
  | ok report => simp
  | error failure =>
      dsimp only
      split
      · simp
      · rintro ⟨⟩
        exact avoided _ answered

end Setting

section Alike

variable {first second : Surroundings} (alike : first.AlikeButLevel second) (options : Options)
  (verbose : Bool)

include alike

private theorem Surroundings.AlikeButLevel.schemaDirectory_eq :
    second.schemaDirectory (options.withLog verbose) = first.schemaDirectory options := by
  have port : first.setting? "ADF_PORT" = second.setting? "ADF_PORT" :=
    alike.setting _ (by decide +kernel)
  have directory : first.setting? "ADF_SCHEMA_DIR" = second.setting? "ADF_SCHEMA_DIR" :=
    alike.setting _ (by decide +kernel)
  simp only [Surroundings.schemaDirectory, Surroundings.resolve, port, directory, alike.tree,
    alike.schemas, alike.acceptsPort]
  rfl

theorem Surroundings.AlikeButLevel.check_eq (target : Target) :
    check second (options.withLog verbose) target = check first options target := by
  cases target <;> simp only [check, Surroundings.resolve, alike.tree] <;> rfl

/-- How checking a target ends and what it prints depend only on the schemas. -/
theorem Surroundings.AlikeButLevel.runTarget_eq (schemas : Path) (threshold other : Nat)
    (target : Target) :
    (runTarget second (options.withLog verbose) ⟨schemas, other⟩ target).ending =
        (runTarget first options ⟨schemas, threshold⟩ target).ending ∧
      (runTarget second (options.withLog verbose) ⟨schemas, other⟩ target).output =
        (runTarget first options ⟨schemas, threshold⟩ target).output := by
  simp only [ending_runTarget, output_runTarget, alike.check_eq, and_self]

/-- A run that does not come to set up its log does not depend on the level. -/
theorem Surroundings.AlikeButLevel.runOptions_eq (unreached : ¬ first.SetsUpLog options) :
    runOptions second (options.withLog verbose) = runOptions first options := by
  have targeted : (options.withLog verbose).target? = options.target? := rfl
  rw [runOptions, runOptions, targeted]
  cases asked : options.target? with
  | error message => rfl
  | ok target =>
      cases target with
      | none => rfl
      | some target =>
          cases located : first.schemaDirectory options with
          | error failure =>
              have located' := (alike.schemaDirectory_eq options verbose).trans located
              simp only [settings_eq, located, located', Except.bind]
          | ok schemas => exact absurd ⟨⟨target, asked⟩, schemas, located⟩ unreached

end Alike

/-- Two runs that differ at most in what they say about the log end alike and print the same, unless
they come to set up the log and the names of the levels differ and are not both known.  A run that
comes to set up its log with an unknown level fails and prints nothing. -/
theorem run_alike_iff {first second : Surroundings} (alike : first.AlikeButLevel second)
    {arguments others : List String} {options : Options} {verbose : Bool}
    (accepted : read arguments = .options options)
    (accepted' : read others = .options (options.withLog verbose)) :
    let name := first.levelName options
    let other := second.levelName (options.withLog verbose)
    ((run first arguments).ending = (run second others).ending ∧
        (run first arguments).output = (run second others).output ↔
      (first.SetsUpLog options → name = other ∨ IsLevel name ∧ IsLevel other)) ∧
    (first.SetsUpLog options → ¬ IsLevel name →
      run first arguments = ⟨.failed (.unknownLevel name), "", ""⟩) := by
  intro name other
  have run_first : run first arguments = runOptions first options := by rw [run, accepted]
  have run_second : run second others = runOptions second (options.withLog verbose) := by
    rw [run, accepted']
  rw [run_first, run_second]
  by_cases sets : first.SetsUpLog options
  · obtain ⟨⟨target, targeted⟩, schemas, located⟩ := id sets
    have targeted' : (options.withLog verbose).target? = .ok (some target) := targeted
    have located' : second.schemaDirectory (options.withLog verbose) = .ok schemas :=
      (alike.schemaDirectory_eq options verbose).trans located
    have failed := runOptions_of_not_isLevel targeted located
    have failed' := runOptions_of_not_isLevel targeted' located'
    refine ⟨?_, fun _ unknown => failed unknown⟩
    rw [forall_prop_of_true sets]
    by_cases known : IsLevel name
    · obtain ⟨threshold, ran⟩ := runOptions_of_isLevel targeted located known
      by_cases known' : IsLevel other
      · obtain ⟨threshold', ran'⟩ := runOptions_of_isLevel targeted' located' known'
        obtain ⟨ending_eq, output_eq⟩ :=
          alike.runTarget_eq options verbose schemas threshold threshold' target
        rw [ran, ran']
        exact iff_of_true ⟨ending_eq.symm, output_eq.symm⟩ (.inr ⟨known, known'⟩)
      · -- Behind the set-up no failure is about a level, so the two runs end differently.
        have differ : name ≠ other := fun same => known' (same ▸ known)
        rw [ran, failed' known']
        simp [ending_runTarget_ne, differ, known']
    · by_cases known' : IsLevel other
      · obtain ⟨threshold', ran'⟩ := runOptions_of_isLevel targeted' located' known'
        have differ : name ≠ other := fun same => known (same ▸ known')
        rw [failed known, ran']
        simp [(ending_runTarget_ne _ _ _).symm, differ, known]
      · rw [failed known, failed' known']
        simp [known, name, other]
  · refine ⟨iff_of_true ?_ fun reached => absurd reached sets, fun reached => absurd reached sets⟩
    rw [alike.runOptions_eq options verbose sets]
    exact ⟨rfl, rfl⟩

section Assigned

variable (tree : FileTree) (schemas : Path) (acceptsPort : String → Bool) (level : String)

/-- An environment that only names a level differs from an empty one in the level alone. -/
theorem alikeButLevel_of_assigned :
    Surroundings.AlikeButLevel ⟨tree, [("ADF_LOG_LEVEL", level)], schemas, acceptsPort⟩
      ⟨tree, [], schemas, acceptsPort⟩ := by
  refine ⟨rfl, rfl, rfl, fun name other => ?_⟩
  have passed : decide (Text.lower "ADF_LOG_LEVEL".toList = Text.lower name.toList) = false :=
    decide_eq_false other.symm
  simp only [Surroundings.setting?, List.reverse_singleton, List.find?_singleton, passed,
    Bool.false_eq_true, if_false]
  rfl

private theorem levelName_of_assigned {options : Options} (calm : options.verbose = false) :
    Surroundings.levelName ⟨tree, [("ADF_LOG_LEVEL", level)], schemas, acceptsPort⟩ options =
      String.ofList (Text.upper level.toList) := by
  have given : Surroundings.setting? ⟨tree, [("ADF_LOG_LEVEL", level)], schemas, acceptsPort⟩
      "ADF_LOG_LEVEL" = some level := by
    have found : decide (Text.lower "ADF_LOG_LEVEL".toList = Text.lower "ADF_LOG_LEVEL".toList) =
        true := decide_eq_true rfl
    rw [Surroundings.setting?, List.reverse_singleton, List.find?_singleton,
      if_pos found]
    rfl
  simp only [Surroundings.levelName, calm, given, Bool.false_eq_true, if_false, Option.getD_some]

end Assigned

/-- With a level from the environment and with the whole log, a run ends alike and prints the
same. -/
theorem run_alike_iff_verbose :
    let first : Surroundings := ⟨nestedTree, [("ADF_LOG_LEVEL", "info")], ⟨['/'], []⟩, isPort⟩
    let second : Surroundings := ⟨nestedTree, [], ⟨['/'], []⟩, isPort⟩
    let options := { Options.initial with file := some "ai.txt" }
    first.AlikeButLevel second ∧ read ["ai.txt"] = .options options ∧
      read ["--verbose", "ai.txt"] = .options (options.withLog true) ∧
      (run first ["ai.txt"]).ending = (run second ["--verbose", "ai.txt"]).ending ∧
      (run first ["ai.txt"]).output = (run second ["--verbose", "ai.txt"]).output := by
  intro first second options
  have alike : first.AlikeButLevel second := alikeButLevel_of_assigned _ _ _ _
  have accepted : read ["ai.txt"] = .options options := by decide +kernel
  have accepted' : read ["--verbose", "ai.txt"] = .options (options.withLog true) := by
    rw [read_verbose_cons, accepted]
    rfl
  have known : IsLevel (first.levelName options) := by
    rw [levelName_of_assigned _ _ _ _ rfl]
    decide +kernel
  obtain ⟨same_iff, -⟩ := run_alike_iff alike accepted accepted'
  exact ⟨alike, accepted, accepted', same_iff.mpr fun _ => .inr ⟨known, rfl⟩⟩

/-- With an unknown level in the environment, a run on a file that passes fails and prints
nothing. -/
theorem run_unknownLevel :
    let first : Surroundings := ⟨passingTree, [("ADF_LOG_LEVEL", "bogus")], ⟨['/'], []⟩, isPort⟩
    let second : Surroundings := ⟨passingTree, [], ⟨['/'], []⟩, isPort⟩
    let options := { Options.initial with file := some "valid/robots-ai.txt" }
    first.AlikeButLevel second ∧ read ["valid/robots-ai.txt"] = .options options ∧
      run first ["valid/robots-ai.txt"] = ⟨.failed (.unknownLevel "BOGUS"), "", ""⟩ ∧
      (run second ["valid/robots-ai.txt"]).ending = .exit 0 ∧
      (run second ["valid/robots-ai.txt"]).output = printed [passingResult.render] := by
  intro first second options
  have accepted : read ["valid/robots-ai.txt"] = .options options := by decide +kernel
  have asked : options.AsksFor (.file "valid/robots-ai.txt") := by
    rw [asksFor_iff]
    decide
  have targeted := (target?_eq_some_iff (exclusive_of_read accepted)).mpr asked
  have alike : first.AlikeButLevel second := alikeButLevel_of_assigned _ _ _ _
  have set : second.settings options = .ok ⟨⟨['/'], []⟩, 30⟩ := settings_of_unset rfl rfl rfl
  refine ⟨alike, accepted, ?_, ?_⟩
  · have located : first.schemaDirectory options = .ok ⟨['/'], []⟩ :=
      (alike.schemaDirectory_eq options false).symm.trans (schemaDirectory_of_settings set)
    have named : first.levelName options = "BOGUS" := by
      rw [levelName_of_assigned _ _ _ _ rfl]
      decide +kernel
    have failed := runOptions_of_not_isLevel targeted located (by rw [named]; decide)
    rw [named] at failed
    rw [run, accepted]
    exact failed
  · have examined : answer (examine second options.fileType (.file "valid/robots-ai.txt"))
        (.fresh ⟨['/'], []⟩) = .ok (.file passingResult) := by
      have resolved : second.resolve "valid/robots-ai.txt" =
          .ok ⟨['/'], ["valid".toList, "robots-ai.txt".toList]⟩ := rfl
      have answered : answer (validateFile passingTree "/valid/robots-ai.txt" none)
          (.fresh ⟨['/'], []⟩) = .ok passingResult := rfl
      rw [examine, answer_place, resolved]
      exact congrArg (Except.map Checked.file) answered
    refine ⟨?_, output_run_of_ok accepted asked set rfl examined⟩
    rw [run_of_asksFor accepted asked set, ending_runTarget, answer_check, examined]
    rfl

end CommandLine
end DiscoveryFiles
