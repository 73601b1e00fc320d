import DiscoveryFiles.Proofs.Json.SameValue

/-!
# Values with reordered members

The members of the objects in a value may be put into any order, at any depth.  What is found under
a name is then reordered itself, and the comparison of values does not tell the two apart.
-/

namespace DiscoveryFiles
namespace Json

mutual

/-- Two values differ in nothing but the order of the members of objects, at any depth. -/
inductive Reordered : Json → Json → Prop where
  /-- Nothing is reordered. -/
  | unchanged (value : Json) : Reordered value value
  /-- The items are reordered, each in its place. -/
  | array {items others : List Json} (each : List.Forall₂ Reordered items others) :
      Reordered (.array items) (.array others)
  /-- The values of the members are reordered, and then the members are. -/
  | object {members between others : List (CodePoints × Json)}
      (each : List.Forall₂ ReorderedMember members between) (perm : between.Perm others) :
      Reordered (.object members) (.object others)

/-- Two members have the same name, and their values differ in nothing but the order of members. -/
inductive ReorderedMember : CodePoints × Json → CodePoints × Json → Prop where
  | intro (name : CodePoints) {value other : Json} (inner : Reordered value other) :
      ReorderedMember (name, value) (name, other)

end

theorem ReorderedMember.name_eq {entry other : CodePoints × Json}
    (reordered : ReorderedMember entry other) : entry.1 = other.1 := by
  cases reordered
  rfl

section Reordered

variable {value other : Json}

theorem IsProper.reordered (proper : IsProper value) (reordered : Reordered value other) :
    IsProper other := by
  induction proper generalizing other with
  | null | boolean | integer | string =>
      cases reordered
      constructor
  | double number =>
      cases reordered
      exact .double number
  | array inner induction =>
      cases reordered with
      | unchanged => exact .array inner
      | array each =>
          refine .array fun other member => ?_
          obtain ⟨item, inItems, reordered⟩ := exists_of_mem_right each member
          exact induction item inItems reordered
  | object distinct inner induction =>
      cases reordered with
      | unchanged => exact .object distinct inner
      | object each perm =>
          refine .object ?_ fun other member => ?_
          · rw [← (perm.map Prod.fst).nodup_iff,
              ← map_fst_eq_of_forall₂ ReorderedMember.name_eq each]
            exact distinct
          · obtain ⟨_, inMembers, reordered⟩ := exists_of_mem_right each (perm.mem_iff.mpr member)
            cases reordered with
            | intro name reordered => exact induction _ inMembers reordered

private theorem sameItems_congr {items others : List Json}
    (related : List.Forall₂ (fun item other => ∀ right, same item right = same other right) items
      others) (right : List Json) : sameItems items right = sameItems others right := by
  induction related generalizing right with
  | nil => rfl
  | cons head _ induction =>
      cases right with
      | nil => rw [sameItems, sameItems] <;> simp
      | cons item right => rw [sameItems, sameItems, head, induction]

private theorem sameMembers_congr {members between : List (CodePoints × Json)}
    (related : List.Forall₂ (fun entry other => entry.1 = other.1 ∧
      ∀ right, same entry.2 right = same other.2 right) members between)
    (right : List (CodePoints × Json)) :
    sameMembers members right = sameMembers between right := by
  induction related with
  | nil => rfl
  | cons head _ induction =>
      obtain ⟨name_eq, value_eq⟩ := head
      rw [sameMembers, sameMembers, induction, name_eq]
      simp only [value_eq]

private theorem sameMembers_eq_of_perm {members others : List (CodePoints × Json)}
    (perm : members.Perm others) (right : List (CodePoints × Json)) :
    sameMembers members right = sameMembers others right := by
  rw [Bool.eq_iff_iff, sameMembers_iff, sameMembers_iff]
  exact ⟨fun each entry member => each entry (perm.mem_iff.mpr member),
    fun each entry member => each entry (perm.mem_iff.mp member)⟩

/-- The comparison does not see in what order the members of its first value are. -/
theorem Reordered.same_eq (proper : IsProper value) (reordered : Reordered value other)
    (right : Json) : same value right = same other right := by
  induction proper generalizing other right with
  | null | boolean | integer | double | string =>
      cases reordered
      rfl
  | array inner induction =>
      cases reordered with
      | unchanged => rfl
      | array each =>
          have items_eq := sameItems_congr
            (forall₂_imp_of_mem each fun item member other reordered =>
              induction item member reordered)
          cases right with
          | array right => rw [same, same, items_eq]
          | _ => simp [same]
  | @object members distinct inner induction =>
      cases reordered with
      | unchanged => rfl
      | @object _ between others each perm =>
          have values_eq (right : List (CodePoints × Json)) :
              sameMembers members right = sameMembers others right := by
            rw [← sameMembers_eq_of_perm perm]
            refine sameMembers_congr (forall₂_imp_of_mem each fun entry member other related => ?_)
              right
            cases related with
            | intro name reordered => exact ⟨rfl, induction _ member reordered⟩
          cases right with
          | object right => rw [same, same, values_eq, each.length_eq, perm.length_eq]
          | _ => simp [same]

theorem Reordered.equal_eq (proper : IsProper value) (reordered : Reordered value other)
    (right : Json) : value.equal right = other.equal right := by
  have same_eq := reordered.same_eq proper right
  cases reordered with
  | unchanged => rfl
  | array => cases right <;> simp_all [equal, isNan]
  | object => cases right <;> simp_all [equal, isNan]

/-- Under each name, there is a reordered value or, as before, none. -/
theorem member?_reordered {members between others : List (CodePoints × Json)}
    (distinct : (members.map Prod.fst).Nodup)
    (each : List.Forall₂ ReorderedMember members between) (perm : between.Perm others)
    (name : CodePoints) :
    member? name members = none ∧ member? name others = none ∨
      ∃ value other, member? name members = some value ∧ member? name others = some other ∧
        Reordered value other := by
  rw [← member?_eq_of_perm (map_fst_eq_of_forall₂ ReorderedMember.name_eq each ▸ distinct) perm]
  refine (member?_of_forall₂ ReorderedMember.name_eq each name).imp_right ?_
  rintro ⟨value, other, found, found', related⟩
  cases related with
  | intro _ reordered => exact ⟨value, other, found, found', reordered⟩

end Reordered

end Json
end DiscoveryFiles
