import DiscoveryFiles.Json.Quoted

/-!
# Violations of a schema

A violation names the place of a value inside the data and what is wrong with it.
-/

namespace DiscoveryFiles
namespace Schema

/-- A step from a value to one that it holds. -/
inductive Step where
  /-- To the member with this name. -/
  | member (name : CodePoints)
  /-- To the item with this index. -/
  | item (index : Nat)
  deriving DecidableEq, Repr

/-- The place of a value inside the data, as the steps to it from the outermost value. -/
abbrev Location := List Step

/-- Write the path of a member behind the path of its object. -/
def memberPath (path name : Text) : Text :=
  if path.isEmpty then name else path ++ '.' :: name

/-- Write one more step behind a path. -/
def Step.extend (path : Text) : Step → Text
  | member name => memberPath path name.shown
  | item index => path ++ '[' :: Nat.toDigits 10 index ++ [']']

/-- The path of a location, behind the path of the outermost value. -/
def Location.path (base : Text) (location : Location) : Text :=
  location.foldl Step.extend base

/-- The value at a location, if there is one. -/
def Location.find? : Location → Json → Option Json
  | [], value => some value
  | .member name :: rest, .object members => (Json.member? name members).bind (find? rest)
  | .item index :: rest, .array items => items[index]?.bind (find? rest)
  | _ :: _, _ => none

/-- What is wrong with a value. -/
inductive Cause where
  /-- No alternative accepts the value. -/
  | noAlternative
  /-- A reference leads nowhere. -/
  | unresolved (reference : Json)
  /-- The value does not have the declared type. -/
  | wrongType (declared : Json) (actual : String)
  /-- The value is not the constant. -/
  | notConstant (constant value : Json)
  /-- The value is not among the options. -/
  | notOption (options : List Json) (value : Json)
  /-- A string is too short. -/
  | shortString (length : Nat) (least : Json)
  /-- A string does not match the pattern. -/
  | noMatch (pattern : CodePoints)
  /-- An object lacks a required member. -/
  | missing (key : Json)
  /-- An object has a member that is not declared. -/
  | undeclared (name : CodePoints)
  /-- An array has too few items. -/
  | fewItems (length : Nat) (least : Json)

/-- The wording of a cause. -/
def Cause.message : Cause → String
  | noAlternative => "Value does not match any oneOf schema"
  | unresolved reference => "Unresolved $ref: " ++ String.ofList reference.named
  | wrongType declared actual =>
      "Expected " ++ String.ofList declared.named ++ ", got " ++ actual
  | notConstant constant value =>
      "Expected constant \"" ++ String.ofList constant.display ++ "\", got \"" ++
        String.ofList value.display ++ "\""
  | notOption options value =>
      "Value \"" ++ String.ofList value.display ++ "\" not in enum [" ++
        String.ofList (Text.join [',', ' '] (options.map Json.display)) ++ "]"
  | shortString length least =>
      "String length " ++ toString length ++ " < minLength " ++ String.ofList least.named
  | noMatch pattern => "String does not match pattern \"" ++ pattern.words ++ "\""
  | missing key => "Required property \"" ++ String.ofList key.named ++ "\" is missing"
  | undeclared name => "Additional property \"" ++ name.words ++ "\" is not allowed"
  | fewItems length least =>
      "Array length " ++ toString length ++ " < minItems " ++ String.ofList least.named

/-- A violation of a schema. -/
structure Violation where
  /-- The place of the value at fault. -/
  location : Location
  /-- What is wrong with it. -/
  cause : Cause

/-- The path that stands for the outermost value. -/
def rootPath : String := "(root)"

/-- The path that a violation is reported at.  An absent or undeclared member is reported at its
own place inside the object. -/
def Violation.path (base : Text) (violation : Violation) : String :=
  let path := violation.location.path base
  match violation.cause with
  | .missing key => String.ofList (memberPath path key.named)
  | .undeclared name => String.ofList (memberPath path name.shown)
  | _ => if path.isEmpty then rootPath else String.ofList path

/-- The wording of a violation. -/
def Violation.message (violation : Violation) : String :=
  violation.cause.message

end Schema
end DiscoveryFiles
