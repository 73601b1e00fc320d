import DiscoveryFiles.Proofs.Json.Member
import DiscoveryFiles.Proofs.Schema.Alike

/-!
# Rearranged schemas

The alternatives of a node, the keys that it requires and the members that it declares may be put
into any order, in all schemas of a document at once.  Every keyword then has a rearranged value or
the same one, and every reference leads to a rearranged definition.
-/

namespace DiscoveryFiles
namespace Schema

mutual

/-- Two schemas differ in nothing but the order of alternatives, required keys and declared members
in them and in the schemas that they are made of. -/
inductive Rearranged : Json → Json → Prop where
  /-- Nothing is rearranged. -/
  | unchanged (schema : Json) : Rearranged schema schema
  /-- The values of keywords are rearranged. -/
  | node {keywords others : List (CodePoints × Json)}
      (each : List.Forall₂ RearrangedKeyword keywords others) :
      Rearranged (.object keywords) (.object others)

/-- A keyword of two such schemas. -/
inductive RearrangedKeyword : CodePoints × Json → CodePoints × Json → Prop where
  /-- The value is the same. -/
  | unchanged (entry : CodePoints × Json) : RearrangedKeyword entry entry
  /-- The alternatives are rearranged, and then their order is changed. -/
  | alternatives {name : CodePoints} {subschemas between others : List Json}
      (named : name = CodePoints.ofString "oneOf")
      (each : List.Forall₂ Rearranged subschemas between) (perm : between.Perm others) :
      RearrangedKeyword (name, .array subschemas) (name, .array others)
  /-- The order of the required keys is changed. -/
  | required {name : CodePoints} {keys others : List Json}
      (named : name = CodePoints.ofString "required") (perm : keys.Perm others) :
      RearrangedKeyword (name, .array keys) (name, .array others)
  /-- The declared members are rearranged, and then their order is changed. -/
  | properties {name : CodePoints} {declared between others : List (CodePoints × Json)}
      (named : name = CodePoints.ofString "properties")
      (each : List.Forall₂ RearrangedMember declared between) (perm : between.Perm others) :
      RearrangedKeyword (name, .object declared) (name, .object others)
  /-- The schema of the items is rearranged. -/
  | items {name : CodePoints} {schema other : Json} (named : name = CodePoints.ofString "items")
      (inner : Rearranged schema other) : RearrangedKeyword (name, schema) (name, other)
  /-- The definitions are rearranged, each in its place. -/
  | definitions {name : CodePoints} {known others : List (CodePoints × Json)}
      (named : name = CodePoints.ofString "$defs")
      (each : List.Forall₂ RearrangedMember known others) :
      RearrangedKeyword (name, .object known) (name, .object others)

/-- Schemas under the same name are rearranged. -/
inductive RearrangedMember : CodePoints × Json → CodePoints × Json → Prop where
  | intro (name : CodePoints) {schema other : Json} (inner : Rearranged schema other) :
      RearrangedMember (name, schema) (name, other)

end

/-! ## Rearranged keywords -/

theorem RearrangedKeyword.name_eq {entry other : CodePoints × Json}
    (rearranged : RearrangedKeyword entry other) : entry.1 = other.1 := by
  cases rearranged <;> rfl

theorem RearrangedMember.name_eq {entry other : CodePoints × Json}
    (rearranged : RearrangedMember entry other) : entry.1 = other.1 := by
  cases rearranged
  rfl

theorem rearrangedMembers_same (members : List (CodePoints × Json)) :
    List.Forall₂ RearrangedMember members members :=
  List.forall₂_same.mpr fun entry _ => .intro entry.1 (.unchanged entry.2)

theorem Rearranged.eq_of_ne_object {schema other : Json} (rearranged : Rearranged schema other)
    (notObject : ∀ keywords, schema ≠ .object keywords) : other = schema := by
  cases rearranged with
  | unchanged => rfl
  | node => exact absurd rfl (notObject _)

section Keyword

variable {keywords others : List (CodePoints × Json)}

theorem Rearranged.exists_each {other : Json} (rearranged : Rearranged (.object keywords) other) :
    ∃ others, other = .object others ∧ List.Forall₂ RearrangedKeyword keywords others := by
  cases rearranged with
  | unchanged => exact ⟨keywords, rfl, List.forall₂_same.mpr fun entry _ => .unchanged entry⟩
  | node each => exact ⟨_, rfl, each⟩

private theorem keyword?_rearranged (each : List.Forall₂ RearrangedKeyword keywords others)
    (name : String) :
    keyword? name keywords = none ∧ keyword? name others = none ∨
      ∃ value other, keyword? name keywords = some value ∧ keyword? name others = some other ∧
        RearrangedKeyword (CodePoints.ofString name, value) (CodePoints.ofString name, other) :=
  Json.member?_of_forall₂ RearrangedKeyword.name_eq each (CodePoints.ofString name)

/-- All keywords but a few are not rearranged. -/
theorem keyword?_eq_of_rearranged (each : List.Forall₂ RearrangedKeyword keywords others)
    {name : String} (ordinary : name ∉ ["oneOf", "required", "properties", "items", "$defs"]) :
    keyword? name keywords = keyword? name others := by
  simp only [List.mem_cons, List.not_mem_nil, or_false, not_or] at ordinary
  obtain ⟨notOneOf, notRequired, notProperties, notItems, notDefs⟩ := ordinary
  rcases keyword?_rearranged each name with ⟨none, none'⟩ | ⟨value, other, found, found', related⟩
  · rw [none, none']
  · rw [found, found']
    cases related with
    | unchanged => rfl
    | alternatives named => exact absurd (ofString_injective.mp named) notOneOf
    | required named => exact absurd (ofString_injective.mp named) notRequired
    | properties named => exact absurd (ofString_injective.mp named) notProperties
    | items named => exact absurd (ofString_injective.mp named) notItems
    | definitions named => exact absurd (ofString_injective.mp named) notDefs

/-- The alternatives are rearranged, or they are no array and the same. -/
theorem alternatives_rearranged (each : List.Forall₂ RearrangedKeyword keywords others) :
    (∃ subschemas between further, keyword? "oneOf" keywords = some (.array subschemas) ∧
        keyword? "oneOf" others = some (.array further) ∧
        List.Forall₂ Rearranged subschemas between ∧ between.Perm further) ∨
      keyword? "oneOf" keywords = keyword? "oneOf" others ∧
        ∀ subschemas, keyword? "oneOf" keywords ≠ some (.array subschemas) := by
  rcases keyword?_rearranged each "oneOf" with
    ⟨none, none'⟩ | ⟨value, other, found, found', related⟩
  · exact .inr ⟨none.trans none'.symm, by simp [none]⟩
  · rw [found, found']
    cases related with
    | unchanged =>
        cases value with
        | array subschemas =>
            exact .inl ⟨_, _, _, rfl, rfl, List.forall₂_same.mpr fun schema _ => .unchanged schema,
              .refl _⟩
        | _ => exact .inr ⟨rfl, by simp⟩
    | alternatives _ each perm => exact .inl ⟨_, _, _, rfl, rfl, each, perm⟩
    | required named | properties named | items named | definitions named => simp at named

theorem agree_requiredKeys (each : List.Forall₂ RearrangedKeyword keywords others) :
    Agree List.Perm (requiredKeys keywords) (requiredKeys others) := by
  rw [requiredKeys, requiredKeys]
  rcases keyword?_rearranged each "required" with
    ⟨none, none'⟩ | ⟨value, other, found, found', related⟩
  · rw [none, none']
    exact .returned (.refl [])
  · rw [found, found']
    cases related with
    | unchanged => exact .refl .refl _
    | required _ perm => exact .returned perm
    | alternatives named | properties named | items named | definitions named => simp at named

/-- Members are rearranged, and then their order is changed. -/
def RearrangedMembers (declared others : List (CodePoints × Json)) : Prop :=
  ∃ between, List.Forall₂ RearrangedMember declared between ∧ between.Perm others

theorem agree_properties (each : List.Forall₂ RearrangedKeyword keywords others) :
    Agree RearrangedMembers (properties keywords) (properties others) := by
  rw [properties.eq_def, properties.eq_def]
  rcases keyword?_rearranged each "properties" with
    ⟨none, none'⟩ | ⟨value, other, found, found', related⟩
  · rw [none, none']
    exact .returned ⟨[], .nil, .refl []⟩
  · rw [found, found']
    cases related with
    | unchanged => exact .refl (fun declared => ⟨_, rearrangedMembers_same declared, .refl _⟩) _
    | properties _ each perm => exact .returned ⟨_, each, perm⟩
    | alternatives named | required named | items named | definitions named => simp at named

theorem items_rearranged (each : List.Forall₂ RearrangedKeyword keywords others) :
    Rearranged ((keyword? "items" keywords).getD .null)
      ((keyword? "items" others).getD .null) := by
  rcases keyword?_rearranged each "items" with
    ⟨none, none'⟩ | ⟨value, other, found, found', related⟩
  · rw [none, none']
    exact .unchanged .null
  · rw [found, found', Option.getD_some, Option.getD_some]
    cases related with
    | unchanged => exact .unchanged value
    | items _ inner => exact inner
    | alternatives named | required named | properties named | definitions named => simp at named

end Keyword

/-! ## Rearranged definitions -/

section Definitions

variable {root other : Json}

private theorem agree_definitions (rearranged : Rearranged root other) :
    Agree (List.Forall₂ RearrangedMember) (definitions root) (definitions other) := by
  cases rearranged with
  | unchanged => exact .refl rearrangedMembers_same _
  | node each =>
      rw [definitions, definitions]
      rcases keyword?_rearranged each "$defs" with
        ⟨none, none'⟩ | ⟨value, other, found, found', related⟩
      · rw [none, none']
        exact .returned .nil
      · rw [found, found']
        cases related with
        | unchanged => exact .refl rearrangedMembers_same _
        | definitions _ each => exact .returned each
        | alternatives named | required named | properties named | items named => simp at named

private theorem definition?_rearranged {known others : List (CodePoints × Json)}
    (each : List.Forall₂ RearrangedMember known others) (name : CodePoints) :
    Option.Rel Rearranged (definition? name known) (definition? name others) := by
  rw [definition?.eq_def, definition?.eq_def]
  rcases Json.member?_of_forall₂ RearrangedMember.name_eq each name with
    ⟨none, none'⟩ | ⟨schema, other, found, found', related⟩
  · rw [none, none']
    exact .none
  · rw [found, found']
    cases related with
    | intro _ inner =>
        cases inner with
        | unchanged =>
            cases schema with
            | null => exact .none
            | _ => exact .some (.unchanged _)
        | node each => exact .some (.node each)

/-- A reference leads to a rearranged definition of the same name. -/
theorem agree_target? (rearranged : Rearranged root other) (reference : Json) :
    Agree (Option.Rel RearrangedMember) (target? root reference) (target? other reference) := by
  rw [target?.eq_def, target?.eq_def]
  split
  · exact .returned .none
  next name _ =>
    refine (agree_definitions rearranged).map fun known others each => ?_
    have related := definition?_rearranged each name
    generalize definition? name known = first at related ⊢
    generalize definition? name others = second at related ⊢
    cases related with
    | none => exact .none
    | some inner => exact .some (.intro name inner)

end Definitions

/-! ## Rearranged keywords at a value -/

section Own

variable {location : Location} {keywords others : List (CodePoints × Json)} {data : Json}

theorem typeViolation?_of_rearranged (each : List.Forall₂ RearrangedKeyword keywords others) :
    typeViolation? location keywords data = typeViolation? location others data := by
  rw [typeViolation?, typeViolation?, keyword?_eq_of_rearranged each (by decide)]

theorem ownViolations_of_rearranged (each : List.Forall₂ RearrangedKeyword keywords others) :
    ownViolations location keywords data = ownViolations location others data := by
  have same (name : String)
      (ordinary : name ∉ ["oneOf", "required", "properties", "items", "$defs"]) :
      keyword? name keywords = keyword? name others := keyword?_eq_of_rearranged each ordinary
  simp only [ownViolations, optionViolations, constantViolations, same "enum" (by decide),
    same "const" (by decide), same "minLength" (by decide), same "pattern" (by decide)]

theorem undeclaredViolations_of_rearranged
    (each : List.Forall₂ RearrangedKeyword keywords others)
    {declared further : List (CodePoints × Json)} (rearranged : RearrangedMembers declared further)
    (members : List (CodePoints × Json)) :
    undeclaredViolations location keywords declared members =
      undeclaredViolations location others further members := by
  obtain ⟨between, eachMember, perm⟩ := rearranged
  have names : (declared.map Prod.fst).Perm (further.map Prod.fst) :=
    Json.map_fst_eq_of_forall₂ RearrangedMember.name_eq eachMember ▸ perm.map Prod.fst
  have found_eq (name : CodePoints) :
      (Json.member? name declared).isSome = (Json.member? name further).isSome := by
    rw [Bool.eq_iff_iff, Json.isSome_member?_iff, Json.isSome_member?_iff, names.mem_iff]
  have empty_eq : declared.isEmpty = further.isEmpty := by
    have length_eq := names.length_eq
    rw [List.length_map, List.length_map] at length_eq
    rw [Bool.eq_iff_iff, List.isEmpty_iff, List.isEmpty_iff, ← List.length_eq_zero_iff,
      ← List.length_eq_zero_iff, length_eq]
  have closed_eq : isClosed keywords = isClosed others := by
    rw [isClosed, isClosed, keyword?_eq_of_rearranged each (by decide)]
  rw [undeclaredViolations, undeclaredViolations, closed_eq, empty_eq]
  simp only [← Option.not_isSome, found_eq]

theorem exists_requiredViolation {key : Json} (text : ∃ name, key = .string name) (base : Text)
    (location : Location) (members : List (CodePoints × Json)) :
    ∃ found, requiredViolation base location members key = .ok found := by
  obtain ⟨name, rfl⟩ := text
  rw [requiredViolation]
  split
  · exact ⟨_, rfl⟩
  · exact ⟨_, rfl⟩

end Own

end Schema
end DiscoveryFiles
