import DiscoveryFiles.Number.Binary64
import DiscoveryFiles.Text.CodePoint

/-!
# JSON values

Whole numerals are kept apart from numerals with a fraction or an exponent: the former are
integers of any size, the latter floating-point numbers.  The members of an object keep the order
in which their names first occurred.
-/

namespace DiscoveryFiles

/-- A JSON value. -/
inductive Json where
  /-- The value `null`. -/
  | null
  /-- A truth value. -/
  | boolean (b : Bool)
  /-- A number written without fraction and exponent. -/
  | integer (n : Int)
  /-- A number written with a fraction or an exponent, or one of the three named numbers. -/
  | double (x : Binary64)
  /-- A string. -/
  | string (s : CodePoints)
  /-- An array. -/
  | array (items : List Json)
  /-- An object, as its members in order. -/
  | object (members : List (CodePoints × Json))

namespace Json

/-- A string value made of the given words. -/
def words (s : String) : Json :=
  string (CodePoints.ofString s)

/-- The value of the member with this name, if there is one. -/
def member? (name : CodePoints) (members : List (CodePoints × Json)) : Option Json :=
  members.lookup name

/-- Set a member: in its old place if the name is known, at the end otherwise. -/
def put (name : CodePoints) (value : Json) :
    List (CodePoints × Json) → List (CodePoints × Json)
  | [] => [(name, value)]
  | (key, old) :: rest =>
      if key = name then (key, value) :: rest else (key, old) :: put name value rest

/-- The members that a sequence of named values leaves: the last value of each name, in the place
where the name came first. -/
def collect (entries : List (CodePoints × Json)) : List (CodePoints × Json) :=
  entries.foldl (fun members entry => put entry.1 entry.2 members) []

/-- The name of the type of a value, as a schema writes it. -/
def typeName : Json → String
  | null => "null"
  | boolean _ => "boolean"
  | integer _ | double _ => "number"
  | string _ => "string"
  | array _ => "array"
  | object _ => "object"

/-- The name of the kind of a value in messages about a keyword of an unusable kind. -/
def kindName : Json → String
  | null => "NoneType"
  | boolean _ => "bool"
  | integer _ => "int"
  | double _ => "float"
  | string _ => "str"
  | array _ => "list"
  | object _ => "dict"

/-- Whether a value is a whole number.  Truth values are not numbers. -/
def isInteger : Json → Bool
  | integer _ => true
  | double x => x.isWhole
  | _ => false

/-- Whether a value counts as given: not null, false, zero or empty. -/
def isGiven : Json → Bool
  | null => false
  | boolean b => b
  | integer n => n != 0
  | double x => x.isNonzero
  | string s => !s.isEmpty
  | array items => !items.isEmpty
  | object members => !members.isEmpty

end Json
end DiscoveryFiles
