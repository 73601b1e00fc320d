import DiscoveryFiles.Json.Parser

/-!
# Identical values

A comparison of JSON values that can be run.  It tells notations of the same number apart and takes
the order of members into account, so that values which pass it are one and the same.
-/

namespace DiscoveryFiles
namespace Json

mutual

/-- Whether two values are built alike. -/
def alike : Json → Json → Bool
  | null, null => true
  | boolean a, boolean b => a == b
  | integer a, integer b => a == b
  | double a, double b => a == b
  | string a, string b => a == b
  | array items, array others => alikeItems items others
  | object members, object others => alikeMembers members others
  | _, _ => false

/-- Whether two lists of items are built alike. -/
def alikeItems : List Json → List Json → Bool
  | [], [] => true
  | item :: items, other :: others => alike item other && alikeItems items others
  | _, _ => false

/-- Whether two lists of members are built alike. -/
def alikeMembers : List (CodePoints × Json) → List (CodePoints × Json) → Bool
  | [], [] => true
  | (name, value) :: members, (key, other) :: others =>
      name == key && alike value other && alikeMembers members others
  | _, _ => false

end

mutual

private theorem eq_of_alike {left right : Json} (same : alike left right = true) :
    left = right := by
  cases left <;> cases right <;> simp only [alike, beq_iff_eq, reduceCtorEq] at same
  case null.null => rfl
  case array.array items others => rw [eq_of_alikeItems same]
  case object.object members others => rw [eq_of_alikeMembers same]
  all_goals rw [same]

private theorem eq_of_alikeItems {items others : List Json}
    (same : alikeItems items others = true) :
    items = others := by
  cases items <;> cases others <;> simp only [alikeItems, Bool.and_eq_true, reduceCtorEq] at same
  case nil.nil => rfl
  case cons.cons item items other others =>
      rw [eq_of_alike same.1, eq_of_alikeItems same.2]

private theorem eq_of_alikeMembers {members others : List (CodePoints × Json)}
    (same : alikeMembers members others = true) : members = others := by
  cases members <;> cases others <;>
    simp only [alikeMembers, Bool.and_eq_true, beq_iff_eq, reduceCtorEq] at same
  case nil.nil => rfl
  case cons.cons entry members other others =>
      rw [Prod.ext same.1.1 (eq_of_alike same.1.2), eq_of_alikeMembers same.2]

end

/-- A text is read as a document when what it is read as is built like the document. -/
theorem parse_eq_of_alike {text : Text} {document : Json}
    (same : (match parse text with
      | .ok value => alike value document
      | .error _ => false) = true) : parse text = .ok document := by
  split at same
  next value read => rw [read, eq_of_alike same]
  · cases same

end Json
end DiscoveryFiles
