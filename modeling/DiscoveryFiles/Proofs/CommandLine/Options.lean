import DiscoveryFiles.CommandLine.Options

/-!
# Options that exclude each other

However the arguments are read, a directory and a directory of test vectors are never both asked
for.
-/

namespace DiscoveryFiles
namespace CommandLine

/-- A directory and a directory of test vectors are not both given. -/
def Options.Exclusive (options : Options) : Prop :=
  options.directory = none ∨ options.testVectors = none

/-- A step of reading: where it goes on, a directory and a directory of test vectors are not both
given, and where it ends, it has not read all options. -/
def ReadsApart {α : Type} (options : α → Options) (outcome : Except Reading α) : Prop :=
  match outcome with
  | .ok value => (options value).Exclusive
  | .error reading => ∀ given, reading ≠ .options given

theorem ReadsApart.bind {α β : Type} {options : α → Options} {further : β → Options}
    {outcome : Except Reading α} {next : α → Except Reading β} (first : ReadsApart options outcome)
    (second : ∀ value, (options value).Exclusive → ReadsApart further (next value)) :
    ReadsApart further (outcome >>= next) := by
  cases outcome with
  | error reading => exact first
  | ok value => exact second value first

section Steps

variable {options : Options} (exclusive : options.Exclusive)

include exclusive

/-- Setting an option with a value keeps the two apart. -/
theorem readsApart_setValue (flag : Flag) (value : String) :
    ReadsApart id (options.setValue flag value) := by
  cases flag with
  | directory =>
      rw [Options.setValue]
      cases given : options.testVectors with
      | none => exact .inr rfl
      | some other => simp [ReadsApart, excluded, aboutFlag]
  | testVectors =>
      rw [Options.setValue]
      cases given : options.directory with
      | none => exact .inl rfl
      | some other => simp [ReadsApart, excluded, aboutFlag]
  | format =>
      rw [Options.setValue]
      cases Format.ofName? value with
      | none => simp [ReadsApart, aboutFlag]
      | some format => exact exclusive
  | _ => exact exclusive

/-- Setting an option without a value keeps the two apart. -/
theorem readsApart_setPlain (flag : Flag) : ReadsApart id (options.setPlain flag) := by
  cases flag with
  | help | version => simp [ReadsApart, Options.setPlain]
  | _ => exact exclusive

end Steps

private theorem helpLetters_ne_options (equals : Bool) (letters : Text) (options : Options) :
    helpLetters equals letters ≠ .options options := by
  fun_induction helpLetters equals letters <;> simp_all [ignoredValue, aboutFlag]

section Operands

variable {progress : Progress} (exclusive : progress.options.Exclusive)

include exclusive

private theorem exclusive_takeOperand (text : String) :
    (progress.takeOperand text).options.Exclusive := by
  rw [Progress.takeOperand]
  split <;> exact exclusive

private theorem exclusive_takeRest (arguments : List Argument) :
    (progress.takeRest arguments).options.Exclusive := by
  have operand (text : String) := exclusive_takeOperand exclusive text
  simp only [Progress.takeRest]
  split
  · split
    · exact operand _
    · exact exclusive
    · exact operand _
    · exact operand _
    · exact exclusive
  · exact exclusive

end Operands

/-- Taking all arguments keeps the two apart. -/
theorem readsApart_take {progress : Progress} (arguments : List Argument)
    (exclusive : progress.options.Exclusive) :
    ReadsApart Progress.options (take progress arguments) := by
  fun_induction take progress arguments with
  | case1 progress arguments => exact exclusive_takeRest exclusive arguments
  | case2 => exact exclusive
  | case3 progress text rest _ induction | case4 progress text rest _ induction =>
      exact induction (exclusive_takeOperand exclusive text)
  | case5 progress text rest _ induction => exact induction exclusive
  | case6 progress text flag short _ value rest _ induction =>
      exact (readsApart_setValue exclusive flag value).bind induction
  | case7 => simp [ReadsApart, aboutFlag]
  | case8 progress text flag short rest _ _ induction =>
      exact (readsApart_setPlain exclusive flag).bind induction
  | case9 progress text flag short equals value rest _ _ induction =>
      exact (readsApart_setValue exclusive flag value).bind induction
  | case10 progress text flag short equals value =>
      exact helpLetters_ne_options equals value.toList
  | case11 => simp [ReadsApart, ignoredValue, aboutFlag]

theorem exclusive_of_read {arguments : List String} {options : Options}
    (accepted : read arguments = .options options) : options.Exclusive := by
  rw [read] at accepted
  split at accepted
  · cases accepted
  next classified _ =>
    have apart : ReadsApart Progress.options (take ⟨.initial, true, []⟩ classified) :=
      readsApart_take classified (.inl rfl)
    split at accepted
    next reading ended =>
      rw [ended] at apart
      exact absurd accepted (apart options)
    next progress taken =>
      rw [taken] at apart
      split at accepted
      · obtain rfl := Reading.options.inj accepted
        exact apart
      · cases accepted

end CommandLine
end DiscoveryFiles
