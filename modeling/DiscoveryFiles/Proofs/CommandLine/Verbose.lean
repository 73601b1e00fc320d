import DiscoveryFiles.Proofs.CommandLine.Options

/-!
# Asking for the whole log

The option for the whole log only sets its own mark: in front of other arguments it changes nothing
else in what they are read as.
-/

namespace DiscoveryFiles
namespace CommandLine

/-- The same options with the whole log, or without it. -/
def Options.withLog (options : Options) (verbose : Bool) : Options :=
  { options with verbose }

/-- The same reading with the whole log. -/
def Reading.withLog : Reading → Reading
  | options asked => options (asked.withLog true)
  | reading => reading

/-- The same progress with the whole log. -/
def Progress.withLog (progress : Progress) : Progress :=
  { progress with options := progress.options.withLog true }

private theorem setValue_withLog (options : Options) (flag : Flag) (value : String) :
    (options.withLog true).setValue flag value =
      (options.setValue flag value).map (Options.withLog · true) := by
  obtain ⟨file, directory, testVectors, fileType, schemaDirectory, quiet, format, verbose⟩ :=
    options
  cases flag with
  | directory => cases testVectors <;> rfl
  | testVectors => cases directory <;> rfl
  | format =>
      simp only [Options.setValue, Options.withLog]
      cases Format.ofName? value <;> rfl
  | _ => rfl

private theorem setPlain_withLog (options : Options) (flag : Flag) :
    (options.withLog true).setPlain flag =
      (options.setPlain flag).map (Options.withLog · true) := by
  cases flag <;> rfl

private theorem takeOperand_withLog (progress : Progress) (text : String) :
    progress.withLog.takeOperand text = (progress.takeOperand text).withLog := by
  obtain ⟨options, wantsFile, extras⟩ := progress
  cases wantsFile <;> rfl

private theorem takeRest_withLog (progress : Progress) (arguments : List Argument) :
    progress.withLog.takeRest arguments = (progress.takeRest arguments).withLog := by
  have wants : progress.withLog.wantsFile = progress.wantsFile := rfl
  simp only [Progress.takeRest, takeOperand_withLog, wants]
  split
  · split <;> rfl
  · rfl

/-- Taking the arguments does not depend on the mark for the whole log. -/
theorem take_withLog (progress : Progress) (arguments : List Argument) :
    take progress.withLog arguments = (take progress arguments).map Progress.withLog := by
  -- Both readings meet the same arguments, so they are in the same case of the reader.
  fun_induction take progress arguments with
  | case1 progress arguments plain =>
      rw [take.eq_def, if_pos plain, takeRest_withLog]
      rfl
  | case2 progress given =>
      rw [take.eq_def, if_neg given]
      rfl
  | case3 progress text rest given induction | case4 progress text rest given induction =>
      rw [take.eq_def, if_neg given, ← induction, ← takeOperand_withLog]
  | case5 progress text rest given induction =>
      rw [take.eq_def, if_neg given, ← induction]
      rfl
  | case6 progress text flag short valued value rest given induction
  | case9 progress text flag short equals value rest valued given induction =>
      rw [take.eq_def, if_neg given]
      dsimp only
      rw [if_pos valued, Progress.withLog, setValue_withLog]
      cases progress.options.setValue flag value with
      | error reading => rfl
      | ok options => exact induction options
  | case7 progress text flag short rest valued alone given =>
      rw [take.eq_def, if_neg given]
      dsimp only
      rw [if_pos valued]
      split
      · exact absurd rfl (alone _ _)
      · rfl
  | case8 progress text flag short rest plain given induction =>
      rw [take.eq_def, if_neg given]
      dsimp only
      rw [if_neg plain, Progress.withLog, setPlain_withLog]
      cases progress.options.setPlain flag with
      | error reading => rfl
      | ok options => exact induction options
  | case10 progress text flag short equals value rest plain repeated given =>
      rw [take.eq_def, if_neg given]
      dsimp only
      rw [if_neg plain, if_pos repeated]
      rfl
  | case11 progress text flag short equals value rest plain single given =>
      rw [take.eq_def, if_neg given]
      dsimp only
      rw [if_neg plain, if_neg single]
      rfl

/-- In front of other arguments, the option for the whole log sets its mark and changes nothing
else. -/
theorem read_verbose_cons (arguments : List String) :
    read ("--verbose" :: arguments) = (read arguments).withLog := by
  have classified : classifyAll ("--verbose" :: arguments) =
      (classifyAll arguments).map (⟨"--verbose", .option .verbose false none⟩ :: ·) := by
    have role : classify "--verbose" = .ok (.option .verbose false none) := rfl
    rw [classifyAll, role]
    · cases classifyAll arguments <;> rfl
    · decide
  rw [read, read, classified]
  cases classifyAll arguments with
  | error message => rfl
  | ok others =>
      have taken :
          take ⟨.initial, true, []⟩ (⟨"--verbose", .option .verbose false none⟩ :: others) =
            (take ⟨.initial, true, []⟩ others).map Progress.withLog := by
        rw [← take_withLog, take.eq_def, if_neg (by simp [Argument.isOption])]
        rfl
      have apart : ReadsApart Progress.options (take ⟨.initial, true, []⟩ others) :=
        readsApart_take others (.inl rfl)
      simp only [Except.map, taken]
      cases ended : take ⟨.initial, true, []⟩ others with
      | error reading =>
          rw [ended] at apart
          cases reading with
          | options asked => exact absurd rfl (apart asked)
          | _ => rfl
      | ok progress =>
          have extras : progress.withLog.extras = progress.extras := rfl
          dsimp only
          rw [extras]
          split <;> rfl

end CommandLine
end DiscoveryFiles
