import DiscoveryFiles.Proofs.Bundled.Pattern
import DiscoveryFiles.Proofs.Schema.Acceptance
import DiscoveryFiles.Proofs.Schema.Conformance

/-!
# Nodes of the bundled schemas

The bundled schemas are put together from a few kinds of nodes.  Each is given here with the values
that it accepts.
-/

namespace DiscoveryFiles
namespace Bundled

open Schema

/-! ## The nodes -/

/-- A node for strings. -/
def textNode : Json :=
  .object [(CodePoints.ofString "type", .words "string")]

/-- A node for strings that are not empty. -/
def filledNode : Json :=
  .object [(CodePoints.ofString "type", .words "string"),
    (CodePoints.ofString "minLength", .integer 1)]

/-- A node for strings that contain a match of a pattern. -/
def patternNode (words : String) : Json :=
  .object [(CodePoints.ofString "type", .words "string"),
    (CodePoints.ofString "pattern", .words words)]

/-- A node for web addresses. -/
def webNode : Json :=
  .object [(CodePoints.ofString "type", .words "string"),
    (CodePoints.ofString "minLength", .integer 1),
    (CodePoints.ofString "pattern", .words "^https?://")]

/-- A node for lists that are not empty, of strings that are not empty. -/
def listNode : Json :=
  .object [(CodePoints.ofString "type", .words "array"),
    (CodePoints.ofString "minItems", .integer 1), (CodePoints.ofString "items", filledNode)]

/-- A node for lists whose items a schema accepts. -/
def itemsNode (schema : Json) : Json :=
  .object [(CodePoints.ofString "type", .words "array"), (CodePoints.ofString "items", schema)]

/-- A node for strings that are among some words. -/
def choiceNode (choices : List String) : Json :=
  .object [(CodePoints.ofString "type", .words "string"),
    (CodePoints.ofString "enum", .array (choices.map .words))]

/-- A node for whole numbers. -/
def wholeNode : Json :=
  .object [(CodePoints.ofString "type", .words "integer")]

/-- A node for objects. -/
def objectNode : Json :=
  .object [(CodePoints.ofString "type", .words "object")]

/-- A node that refers to a definition. -/
def referenceNode (name : String) : Json :=
  .object [(CodePoints.ofString "$ref", .words ("#/$defs/" ++ name))]

/-- Objects with declared members only are described by a record without required keys. -/
theorem isRecord_declared (declared : List (CodePoints × Json)) :
    IsRecord [(CodePoints.ofString "type", .words "object"),
      (CodePoints.ofString "properties", .object declared)] [] declared := by
  refine ⟨?_, by simp, by simp [requiredKeys], by simp [properties], by simp⟩
  constructor <;> simp

/-! ## What the nodes accept -/

/-- A value is a string. -/
def IsText (data : Json) : Prop :=
  ∃ points, data = .string points

/-- A value is a string that is not empty. -/
def IsFilled (data : Json) : Prop :=
  ∃ points, data = .string points ∧ points ≠ []

/-- A value is a string that contains a match of a pattern. -/
def Fits (words : String) (data : Json) : Prop :=
  ∃ points, data = .string points ∧ Pattern.Matches words points

/-- A value is a web address. -/
def IsWeb (data : Json) : Prop :=
  ∃ points, data = .string points ∧ IsWebAddress points

/-- A value is a list of values with a property. -/
def IsListOf (property : Json → Prop) (data : Json) : Prop :=
  ∃ items, data = .array items ∧ ∀ item ∈ items, property item

/-- A value is one of some words. -/
def IsAmong (choices : List String) (data : Json) : Prop :=
  ∃ choice ∈ choices, data = .words choice

/-- An object has a member with a property. -/
def Has (members : List (CodePoints × Json)) (name : String) (property : Json → Prop) : Prop :=
  ∃ value, Json.member? (CodePoints.ofString name) members = some value ∧ property value

/-- A member has a property if the object has the member at all. -/
def MayHave (members : List (CodePoints × Json)) (name : String) (property : Json → Prop) : Prop :=
  ∀ value, Json.member? (CodePoints.ofString name) members = some value → property value

section Has

variable {members : List (CodePoints × Json)} {name : String} {property : Json → Prop}

theorem Has.of_hasKey (key : HasKey members (.string (CodePoints.ofString name)))
    (fits : MayHave members name property) : Has members name property := by
  obtain ⟨_, value, ⟨⟩, found⟩ := key
  exact ⟨value, found, fits value found⟩

theorem Has.hasKey (has : Has members name property) :
    HasKey members (.string (CodePoints.ofString name)) := by
  obtain ⟨value, found, -⟩ := has
  exact ⟨_, value, rfl, found⟩

theorem Has.mayHave (has : Has members name property) : MayHave members name property := by
  obtain ⟨value, found, fits⟩ := has
  intro other other_eq
  rw [found, Option.some.injEq] at other_eq
  exact other_eq ▸ fits

end Has

section Acceptance

variable {context : Context} {followed : List CodePoints}

theorem accepts_textNode : Accepts context followed textNode IsText := by
  refine (accepts_string (fun _ => True) (fun _ => True) ?_ ?_ ?_ ?_).congr fun data => ?_
  · constructor <;> simp
  · simp
  · intro location points
    simpa using settles_no_length _ _
  · intro location points
    simpa using settles_no_pattern _
  · simp [IsText]

theorem accepts_filledNode : Accepts context followed filledNode IsFilled := by
  refine (accepts_string (fun points => 1 ≤ points.length) (fun _ => True) ?_ ?_ ?_ ?_).congr
    fun data => ?_
  · constructor <;> simp
  · simp
  · intro location points
    simpa using settles_lengthViolations 1 _ _
  · intro location points
    simpa using settles_no_pattern _
  · simp [IsFilled, Nat.one_le_iff_ne_zero]

theorem accepts_patternNode {words : String} {pattern : Pattern}
    (read : Pattern.parse (CodePoints.ofString words) = .ok pattern)
    (regular : pattern.isRegular = true) (given : words ≠ "") :
    Accepts context followed (patternNode words) (Fits words) := by
  refine (accepts_string (fun _ => True) (Pattern.Matches words) ?_ ?_ ?_ ?_).congr fun data => ?_
  · constructor <;> simp
  · simp
  · intro location points
    simpa using settles_no_length _ _
  · intro location points
    simpa using settles_patternViolations read regular given points
  · simp [Fits]

theorem accepts_webNode : Accepts context followed webNode IsWeb := by
  refine (accepts_string (fun points => 1 ≤ points.length) (Pattern.Matches "^https?://")
    ?_ ?_ ?_ ?_).congr fun data => ?_
  · constructor <;> simp
  · simp
  · intro location points
    simpa using settles_lengthViolations 1 _ _
  · intro location points
    simpa using settles_patternViolations parse_web (by decide) (by decide) points
  · have filled (points : CodePoints) (address : IsWebAddress points) : 1 ≤ points.length := by
      rcases address with stands | stands
      · exact Nat.le_trans (by simp [CodePoints.ofString, CodePoints.ofText]) stands.length_le
      · exact Nat.le_trans (by simp [CodePoints.ofString, CodePoints.ofText]) stands.length_le
    simp only [IsWeb, matches_web_iff]
    exact exists_congr fun points => and_congr_right fun _ => and_iff_right_of_imp (filled points)

theorem accepts_listNode :
    Accepts context followed listNode fun data =>
      ∃ items, data = .array items ∧ items ≠ [] ∧ ∀ item ∈ items, IsFilled item := by
  refine (accepts_array (1 ≤ ·) ?_ ?_ ?_ ?_ accepts_filledNode).congr fun data => ?_
  · constructor <;> simp
  · simp
  · intro location count
    simpa using settles_lengthViolations 1 _ _
  · simp
  · simp [Nat.one_le_iff_ne_zero]

theorem accepts_itemsNode {schema : Json} {property : Json → Prop}
    (each : Accepts context [] schema property) :
    Accepts context followed (itemsNode schema) (IsListOf property) := by
  refine (accepts_array (fun _ => True) ?_ ?_ ?_ ?_ each).congr fun data => ?_
  · constructor <;> simp
  · simp
  · intro location count
    simpa using settles_no_length _ _
  · simp
  · simp [IsListOf]

theorem accepts_choiceNode (choices : List String) :
    Accepts context followed (choiceNode choices) (IsAmong choices) := by
  refine accepts_choice ?_ ?_ ?_ ?_ ?_ ?_
  · constructor <;> simp
  all_goals simp

theorem accepts_wholeNode : Accepts context followed wholeNode Json.IsWhole := by
  refine accepts_whole ?_ ?_
  · constructor <;> simp
  · simp

theorem accepts_objectNode :
    Accepts context followed objectNode fun data => ∃ members, data = .object members := by
  have record : IsRecord [(CodePoints.ofString "type", .words "object")] [] [] := by
    refine ⟨?_, by simp, by simp [requiredKeys], by simp [properties], by simp⟩
    constructor <;> simp
  exact (accepts_object record acceptsMembers_nil).congr fun data => by simp

/-- A reference to a definition of the document is evaluated as the definition. -/
theorem check_referenceNode {name : String} {keywords known : List (CodePoints × Json)}
    {schema : Json} (root_eq : context.root = .object keywords)
    (known_eq : keyword? "$defs" keywords = some (.object known))
    (member : Json.member? (CodePoints.ofString name) known = some schema) (given : schema ≠ .null)
    (fresh : CodePoints.ofString name ∉ followed) (location : Location) (data : Json) :
    check context location followed (referenceNode name) data =
      check context location (CodePoints.ofString name :: followed) schema data := by
  have reference_eq : Json.words ("#/$defs/" ++ name) =
      .string (CodePoints.ofString "#/$defs/" ++ CodePoints.ofString name) := by
    simp [Json.words, CodePoints.ofString, CodePoints.ofText]
  have target_eq := target?_eq root_eq known_eq member given
  rw [referenceNode, reference_eq]
  exact check_eq_of_reference (by simp) (by simp) target_eq fresh location data

/-- A reference to a definition of the document accepts what the definition accepts. -/
theorem accepts_referenceNode {name : String} {keywords known : List (CodePoints × Json)}
    {schema : Json} {property : Json → Prop} (root_eq : context.root = .object keywords)
    (known_eq : keyword? "$defs" keywords = some (.object known))
    (member : Json.member? (CodePoints.ofString name) known = some schema) (given : schema ≠ .null)
    (fresh : CodePoints.ofString name ∉ followed)
    (accepts : Accepts context (CodePoints.ofString name :: followed) schema property) :
    Accepts context followed (referenceNode name) property := by
  intro location data
  rw [check_referenceNode root_eq known_eq member given fresh]
  exact accepts location data

end Acceptance

end Bundled
end DiscoveryFiles
