import Mathlib.Data.List.Forall2
import Mathlib.Data.List.Nodup
import Mathlib.Data.List.Perm.Subperm
import DiscoveryFiles.Json.Basic

/-!
# Items and members

Items are compared with each other place by place, and members under their names.  Where the names
of the members of an object are distinct, a name stands for one member, and neither what is found
under a name nor whether something is found depends on the order of the members.
-/

namespace DiscoveryFiles
namespace Json

/-! ## Lists related element by element -/

section Related

variable {α β : Type} {R S : α → β → Prop} {first : List α} {second : List β}

theorem exists_of_mem_right (related : List.Forall₂ R first second) {y : β} (member : y ∈ second) :
    ∃ x ∈ first, R x y := by
  induction related with
  | nil => cases member
  | cons head _ induction =>
      rcases List.mem_cons.mp member with rfl | inTail
      · exact ⟨_, List.mem_cons_self, head⟩
      · obtain ⟨x, inFirst, holds⟩ := induction inTail
        exact ⟨x, List.mem_cons_of_mem _ inFirst, holds⟩

theorem forall₂_imp_of_mem (related : List.Forall₂ R first second)
    (each : ∀ x ∈ first, ∀ y, R x y → S x y) : List.Forall₂ S first second :=
  ((List.forall₂_and_left first second).mpr ⟨each, related⟩).imp
    fun _ y ⟨holds, here⟩ => holds y here

/-- Relations that agree on the elements of two lists agree on the lists. -/
theorem forall₂_congr (agree : ∀ x ∈ first, ∀ y ∈ second, (R x y ↔ S x y)) :
    List.Forall₂ R first second ↔ List.Forall₂ S first second := by
  rw [List.forall₂_iff_zip, List.forall₂_iff_zip]
  refine and_congr_right fun _ => ⟨fun each x y member => ?_, fun each x y member => ?_⟩
  · obtain ⟨inFirst, inSecond⟩ := List.of_mem_zip member
    exact (agree x inFirst y inSecond).mp (each member)
  · obtain ⟨inFirst, inSecond⟩ := List.of_mem_zip member
    exact (agree x inFirst y inSecond).mpr (each member)

theorem forall₂_comp {γ : Type} {S : β → γ → Prop} {T : α → γ → Prop} {third : List γ}
    (here : List.Forall₂ R first second) (there : List.Forall₂ S second third)
    (comp : ∀ x ∈ first, ∀ y z, R x y → S y z → T x z) : List.Forall₂ T first third := by
  induction here generalizing third with
  | nil =>
      cases there
      exact .nil
  | cons head _ induction =>
      cases there with
      | cons next rest =>
          obtain ⟨comp, later⟩ := List.forall_mem_cons.mp comp
          exact .cons (comp _ _ head next) (induction rest later)

end Related

/-! ## Members by name -/

variable {members others : List (CodePoints × Json)} {name : CodePoints} {value : Json}

theorem mem_of_member? (found : member? name members = some value) : (name, value) ∈ members := by
  obtain ⟨before, behind, rfl, -⟩ := List.lookup_eq_some_iff.mp found
  simp

theorem isSome_member?_iff :
    (member? name members).isSome = true ↔ name ∈ members.map Prod.fst := by
  induction members with
  | nil => simp [member?]
  | cons entry members induction =>
      rw [member?, List.lookup_cons, List.map_cons, List.mem_cons]
      by_cases same : name = entry.1
      · simp [same]
      · rw [beq_eq_false_iff_ne.mpr same, or_iff_right same]
        exact induction

theorem member?_eq_some_iff (distinct : (members.map Prod.fst).Nodup) :
    member? name members = some value ↔ (name, value) ∈ members := by
  refine ⟨mem_of_member?, fun member => ?_⟩
  induction members with
  | nil => cases member
  | cons entry members induction =>
      obtain ⟨fresh, distinct⟩ := List.nodup_cons.mp distinct
      rcases List.mem_cons.mp member with rfl | inTail
      · simp [member?]
      · have other : (name == entry.1) = false := by
          rw [beq_eq_false_iff_ne]
          rintro rfl
          exact fresh (List.mem_map.mpr ⟨_, inTail, rfl⟩)
        rw [member?, List.lookup_cons, other]
        exact induction distinct inTail

theorem member?_eq_of_perm (distinct : (members.map Prod.fst).Nodup)
    (perm : members.Perm others) (name : CodePoints) :
    member? name members = member? name others := by
  have others_distinct : (others.map Prod.fst).Nodup := (perm.map Prod.fst).nodup_iff.mp distinct
  ext value
  rw [member?_eq_some_iff distinct, member?_eq_some_iff others_distinct, perm.mem_iff]

section EachMember

variable {R : CodePoints × Json → CodePoints × Json → Prop}

theorem map_fst_eq_of_forall₂ (names : ∀ {entry other}, R entry other → entry.1 = other.1)
    (each : List.Forall₂ R members others) : members.map Prod.fst = others.map Prod.fst := by
  induction each with
  | nil => rfl
  | cons head _ induction => rw [List.map_cons, List.map_cons, names head, induction]

/-- In objects whose members are related one by one, a name stands for related members or, in both,
for none. -/
theorem member?_of_forall₂ (names : ∀ {entry other}, R entry other → entry.1 = other.1)
    (each : List.Forall₂ R members others) (name : CodePoints) :
    member? name members = none ∧ member? name others = none ∨
      ∃ value other, member? name members = some value ∧ member? name others = some other ∧
        R (name, value) (name, other) := by
  induction each with
  | nil => exact .inl ⟨rfl, rfl⟩
  | @cons entry other _ _ head _ induction =>
      obtain ⟨key, value⟩ := entry
      obtain ⟨otherKey, other⟩ := other
      obtain rfl : key = otherKey := names head
      rw [member?, member?, List.lookup_cons, List.lookup_cons]
      split
      next here =>
        obtain rfl : name = key := beq_iff_eq.mp here
        exact .inr ⟨value, other, rfl, rfl, head⟩
      · exact induction

end EachMember

/-- Two objects have the same names exactly when the names of one are those of the other in some
order. -/
theorem names_perm_iff (distinct : (members.map Prod.fst).Nodup)
    (others_distinct : (others.map Prod.fst).Nodup) :
    (members.map Prod.fst).Perm (others.map Prod.fst) ↔
      ∀ name, (member? name members).isSome = (member? name others).isSome := by
  rw [List.perm_ext_iff_of_nodup distinct others_distinct]
  refine forall_congr' fun name => ?_
  rw [← isSome_member?_iff, ← isSome_member?_iff]
  exact Bool.eq_iff_iff.symm

/-- Of two objects with equally many members, one has the names of the other if the other has its
names. -/
theorem names_perm_of_length_eq (distinct : (members.map Prod.fst).Nodup)
    (length_eq : members.length = others.length)
    (found : ∀ entry ∈ members, (member? entry.1 others).isSome = true) :
    (members.map Prod.fst).Perm (others.map Prod.fst) := by
  have subset : members.map Prod.fst ⊆ others.map Prod.fst := by
    intro name member
    obtain ⟨entry, inMembers, rfl⟩ := List.mem_map.mp member
    exact isSome_member?_iff.mp (found entry inMembers)
  refine (distinct.subperm subset).perm_of_length_le ?_
  simp [length_eq]

end Json
end DiscoveryFiles
