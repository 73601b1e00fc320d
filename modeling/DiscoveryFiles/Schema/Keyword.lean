import DiscoveryFiles.Json.Equality
import DiscoveryFiles.Pattern.Occurrence
import DiscoveryFiles.Pattern.Parser
import DiscoveryFiles.Schema.Fault
import DiscoveryFiles.Schema.Violation

/-!
# Keywords

A schema is an object whose members are keywords.  Here are those keywords that look at a value
without looking into what it holds by way of other schemas.
-/

namespace DiscoveryFiles
namespace Schema

/-- The value of a keyword, if it is there. -/
def keyword? (name : String) (keywords : List (CodePoints × Json)) : Option Json :=
  Json.member? (CodePoints.ofString name) keywords

/-- The elements of a value that lists others: the items of an array, the characters of a string,
or the names of the members of an object. -/
def elements : Json → Except Fault (List Json)
  | .array items => .ok items
  | .string s => .ok (s.map fun point => .string [point])
  | .object members => .ok (members.map fun entry => .string entry.1)
  | value => .error (.notIterable value.kindName)

/-- Whether a length is less than the value of a keyword. -/
def isBelow (length : Nat) (least : Json) : Except Fault Bool :=
  match least.quantity? with
  | some (.scaled a e) => .ok (compareScaled length 0 a e == .lt)
  | some (.infinite negative) => .ok !negative
  | some .nan => .ok false
  | none => .error (.notOrdered least.kindName)

/-- Whether a value has a declared type; no type and the null type are no condition. -/
def hasType (declared : Option Json) (data : Json) : Bool :=
  match declared with
  | none | some .null => true
  | some (.string name) =>
      if name = CodePoints.ofString "integer" then data.isInteger
      else name == CodePoints.ofString data.typeName
  | some _ => false

/-- The violation of a declared type. -/
def typeViolation? (location : Location) (keywords : List (CodePoints × Json)) (data : Json) :
    Option Violation :=
  let declared := keyword? "type" keywords
  if hasType declared data then none
  else some ⟨location, .wrongType (declared.getD .null) data.typeName⟩

/-- The violation of a constant. -/
def constantViolations (location : Location) (keywords : List (CodePoints × Json)) (data : Json) :
    List Violation :=
  match keyword? "const" keywords with
  | none => []
  | some constant =>
      if data.equal constant then [] else [⟨location, .notConstant constant data⟩]

/-- The violation of a list of options. -/
def optionViolations (location : Location) (keywords : List (CodePoints × Json)) (data : Json) :
    Except Fault (List Violation) :=
  match keyword? "enum" keywords with
  | none => .ok []
  | some options => do
      let options ← elements options
      if options.any data.equal then return [] else return [⟨location, .notOption options data⟩]

/-- The violation of a least length, worded by `cause`. -/
def lengthViolations (location : Location) (least : Option Json) (length : Nat)
    (cause : Nat → Json → Cause) : Except Fault (List Violation) :=
  match least with
  | none | some .null => .ok []
  | some least => do
      if ← isBelow length least then return [⟨location, cause length least⟩] else return []

/-- The violation of a pattern. -/
def patternViolations (location : Location) (pattern : Option Json) (data : CodePoints) :
    Except Fault (List Violation) :=
  match pattern with
  | none => .ok []
  | some pattern =>
      if !pattern.isGiven then .ok []
      else
        match pattern with
        | .string points =>
            match Pattern.parse points with
            | .error error => .error (.ofPattern points error)
            | .ok parsed =>
                if parsed.occursIn data then .ok [] else .ok [⟨location, .noMatch points⟩]
        | .array _ | .object _ => .error (.notAKey pattern.kindName)
        | _ => .error .patternNotText

/-- The violations of the keywords that look at a value alone. -/
def ownViolations (location : Location) (keywords : List (CodePoints × Json)) (data : Json) :
    Except Fault (List Violation) := do
  let options ← optionViolations location keywords data
  let constants := constantViolations location keywords data
  match data with
  | .string s =>
      let length ← lengthViolations location (keyword? "minLength" keywords) s.length .shortString
      let pattern ← patternViolations location (keyword? "pattern" keywords) s
      return constants ++ options ++ length ++ pattern
  | _ => return constants ++ options

/-- The violation of one required key. -/
def requiredViolation (base : Text) (location : Location)
    (members : List (CodePoints × Json)) (key : Json) : Except Fault (List Violation) :=
  match key with
  | .string name =>
      if (Json.member? name members).isSome then .ok [] else .ok [⟨location, .missing key⟩]
  | .array _ | .object _ => .error (.notAKey key.kindName)
  | _ =>
      if (location.path base).isEmpty then .error .keyNotText
      else .ok [⟨location, .missing key⟩]

/-- The violations of a sequence of required keys. -/
def requiredViolations (base : Text) (location : Location)
    (members : List (CodePoints × Json)) : List Json → Except Fault (List Violation)
  | [] => .ok []
  | key :: keys => do
      let first ← requiredViolation base location members key
      let others ← requiredViolations base location members keys
      return first ++ others

/-- The keys that a schema requires. -/
def requiredKeys (keywords : List (CodePoints × Json)) : Except Fault (List Json) :=
  match keyword? "required" keywords with
  | none => .ok []
  | some keys => elements keys

/-- The declared members of a schema. -/
def properties (keywords : List (CodePoints × Json)) :
    Except Fault (List (CodePoints × Json)) :=
  match keyword? "properties" keywords with
  | none => .ok []
  | some (.object properties) => .ok properties
  | some value => if value.isGiven then .error (.noMembers value.kindName "items") else .ok []

/-- Whether a schema refuses members that it does not declare. -/
def isClosed (keywords : List (CodePoints × Json)) : Bool :=
  match keyword? "additionalProperties" keywords with
  | some (.boolean false) => true
  | _ => false

/-- The violations of a closed schema by members that it does not declare. -/
def undeclaredViolations (location : Location) (keywords properties : List (CodePoints × Json))
    (members : List (CodePoints × Json)) : List Violation :=
  if isClosed keywords && !properties.isEmpty then
    (members.filter fun entry => (Json.member? entry.1 properties).isNone).map fun entry =>
      ⟨location, .undeclared entry.1⟩
  else []

end Schema
end DiscoveryFiles
