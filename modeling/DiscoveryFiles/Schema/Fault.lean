import DiscoveryFiles.Json.Error
import DiscoveryFiles.Pattern.Error

/-!
# Faults of a schema

A schema whose keywords have values of an unusable kind cannot be evaluated on all data.  A fault
says what stopped the evaluation; the kind of the value at fault is named where it matters.
-/

namespace DiscoveryFiles
namespace Schema

/-- Why an evaluation stopped. -/
inductive Fault where
  /-- A least length is not a number. -/
  | notOrdered (kind : String)
  /-- A keyword that lists values has a value without elements. -/
  | notIterable (kind : String)
  /-- A value that should be an object is asked for a member. -/
  | noMembers (kind method : String)
  /-- A required key, or a pattern, is an array or an object. -/
  | notAKey (kind : String)
  /-- A pattern is not a string. -/
  | patternNotText
  /-- A pattern cannot be read. -/
  | badPattern (pattern : CodePoints) (error : Pattern.Error)
  /-- A pattern counts repetitions beyond all limits. -/
  | countTooLarge
  /-- A pattern counts repetitions with too many digits. -/
  | countTooLong (digits : Nat)
  /-- The flags of a pattern class characters in two ways. -/
  | opposedAlphabets
  /-- A required key that is not a string would be reported as a path of its own. -/
  | keyNotText
  /-- References lead back to themselves at the same value without end. -/
  | endless

/-- The fault of a schema with a pattern that cannot be read.  A few problems are faults of their
own, which no report on the pattern covers. -/
def Fault.ofPattern (pattern : CodePoints) (error : Pattern.Error) : Fault :=
  match error.problem with
  | .largeCount => .countTooLarge
  | .longCount digits => .countTooLong digits
  | .opposedAlphabets => .opposedAlphabets
  | _ => .badPattern pattern error

/-- The wording of a fault. -/
def Fault.message : Fault → String
  | notOrdered kind => "'<' not supported between instances of 'int' and '" ++ kind ++ "'"
  | notIterable kind => "'" ++ kind ++ "' object is not iterable"
  | noMembers kind method => "'" ++ kind ++ "' object has no attribute '" ++ method ++ "'"
  | notAKey kind => "unhashable type: '" ++ kind ++ "'"
  | patternNotText => "first argument must be string or compiled pattern"
  | badPattern pattern error =>
      "Invalid pattern \"" ++ pattern.words ++ "\": " ++ error.message pattern
  | countTooLarge => Pattern.Problem.largeCount.message
  | countTooLong digits => (Pattern.Problem.longCount digits).message
  | opposedAlphabets => Pattern.Problem.opposedAlphabets.message
  | keyNotText => ""
  | endless => Json.depthMessage

end Schema
end DiscoveryFiles
