import DiscoveryFiles.Json.Printer

/-!
# Values in messages about schemas

A keyword's value is named in a message in a notation of its own: words for the constants, quoted
strings inside arrays and objects, and a bare string on its own.
-/

namespace DiscoveryFiles
namespace Json

/-- A floating-point number in a message. -/
def quoteDouble : Binary64 → Text
  | .nan => "nan".toList
  | .infinite false => "inf".toList
  | .infinite true => "-inf".toList
  | x => writeDouble x

mutual

/-- A value inside a message, with strings quoted. -/
def quoted : Json → Text
  | null => "None".toList
  | boolean true => "True".toList
  | boolean false => "False".toList
  | integer n => writeInteger n
  | double x => quoteDouble x
  | string s => s.quoted
  | array [] => ['[', ']']
  | array (item :: items) => '[' :: quoted item ++ quotedItems items ++ [']']
  | object [] => ['{', '}']
  | object ((name, value) :: members) =>
      '{' :: CodePoints.quoted name ++ ':' :: ' ' :: quoted value ++ quotedMembers members ++ ['}']

/-- The items after the first, each behind a separator. -/
def quotedItems : List Json → Text
  | [] => []
  | item :: items => ',' :: ' ' :: quoted item ++ quotedItems items

/-- The members after the first, each behind a separator. -/
def quotedMembers : List (CodePoints × Json) → Text
  | [] => []
  | (name, value) :: members =>
      ',' :: ' ' :: CodePoints.quoted name ++ ':' :: ' ' :: quoted value ++ quotedMembers members

end

/-- A value on its own in a message: a string bare, anything else with its strings quoted. -/
def named : Json → Text
  | string s => s.shown
  | value => value.quoted

end Json
end DiscoveryFiles
