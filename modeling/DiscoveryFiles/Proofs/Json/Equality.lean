import DiscoveryFiles.Proofs.Json.Reordering

/-!
# Equality as an equivalence

To be the same JSON value is an equivalence of values whose objects have distinct names and whose
numbers all have a value.  So is the comparison of such values, which moreover overlooks the order
of members.
-/

namespace DiscoveryFiles
namespace Json

/-! ## The same JSON value -/

section SameValue

variable {first second third : Json}

theorem SameValue.refl (proper : IsProper first) : SameValue first first := by
  induction proper with
  | null => exact .null
  | boolean b => exact .boolean b
  | integer n => exact .number rfl rfl
  | @double x number =>
      cases x with
      | nan => exact absurd rfl number
      | infinite negative => exact .infinite negative
      | finite => exact .number rfl rfl
  | string s => exact .string s
  | array _ induction => exact .array (List.forall₂_same.mpr induction)
  | object _ _ induction =>
      refine .object (fun _ => rfl) fun name value other left_eq right_eq => ?_
      obtain rfl : value = other := Option.some.inj (left_eq.symm.trans right_eq)
      exact induction _ (mem_of_member? left_eq)

theorem SameValue.symm (proper : IsProper first) (same : SameValue first second) :
    SameValue second first := by
  induction proper generalizing second with
  | null | boolean | integer | double | string =>
      have kept := same
      cases same with
      | number left_eq right_eq => exact .number right_eq left_eq
      | _ => exact kept
  | array _ induction =>
      obtain ⟨others, rfl, each⟩ := sameValue_array_iff.mp same
      exact .array (List.Forall₂.flip (forall₂_imp_of_mem each fun item member other same =>
        induction item member same))
  | object _ _ induction =>
      obtain ⟨others, rfl, names, each⟩ := sameValue_object_iff.mp same
      refine .object (fun name => (names name).symm) fun name value other left_eq right_eq => ?_
      exact induction _ (mem_of_member? right_eq) (each name other value right_eq left_eq)

theorem SameValue.trans (proper : IsProper first) (here : SameValue first second)
    (there : SameValue second third) : SameValue first third := by
  induction proper generalizing second third with
  | null | boolean | integer | double | string =>
      cases here with
      | number left_eq right_eq =>
          exact .number left_eq ((sameValue_iff_of_rational? right_eq).mp there)
      | _ => exact there
  | array _ induction =>
      obtain ⟨seconds, rfl, firstEach⟩ := sameValue_array_iff.mp here
      obtain ⟨thirds, rfl, secondEach⟩ := sameValue_array_iff.mp there
      exact .array (forall₂_comp firstEach secondEach fun item member _ _ => induction item member)
  | object _ _ induction =>
      obtain ⟨seconds, rfl, firstNames, firstEach⟩ := sameValue_object_iff.mp here
      obtain ⟨thirds, rfl, secondNames, secondEach⟩ := sameValue_object_iff.mp there
      refine .object (fun name => (firstNames name).trans (secondNames name)) ?_
      intro name value other left_eq right_eq
      obtain ⟨between, between_eq⟩ : ∃ between, member? name seconds = some between := by
        rw [← Option.isSome_iff_exists, ← firstNames, left_eq, Option.isSome_some]
      exact induction _ (mem_of_member? left_eq) (firstEach name value between left_eq between_eq)
        (secondEach name between other between_eq right_eq)

end SameValue

/-! ## Equality -/

section Equality

private theorem map_fst_countedMembers (members : List (CodePoints × Json)) :
    (countedMembers members).map Prod.fst = members.map Prod.fst := by
  induction members with
  | nil => rfl
  | cons entry members induction => rw [countedMembers, List.map_cons, List.map_cons, induction]

theorem IsProper.counted {value : Json} (proper : IsProper value) : IsProper value.counted := by
  induction proper with
  | null => exact .null
  | boolean b => exact .integer _
  | integer n => exact .integer n
  | double number => exact .double number
  | string s => exact .string s
  | array _ induction =>
      rw [Json.counted, countedItems_eq_map]
      exact .array (List.forall_mem_map.mpr induction)
  | @object members distinct _ induction =>
      rw [Json.counted]
      have distinct_counted : ((countedMembers members).map Prod.fst).Nodup := by
        rw [map_fst_countedMembers]
        exact distinct
      refine .object distinct_counted fun entry member => ?_
      have found := (member?_eq_some_iff distinct_counted).mpr member
      rw [member?_countedMembers, Option.map_eq_some_iff] at found
      obtain ⟨value, found, counted_eq⟩ := found
      rw [← counted_eq]
      exact induction _ (mem_of_member? found)

theorem IsProper.countedInside {value : Json} (proper : IsProper value) :
    IsProper value.countedInside := by
  cases value with
  | boolean b => exact .boolean b
  | _ => exact proper.counted

/-- Equality is an equivalence on proper values, and a value equals whatever differs from it in
nothing but the order of members. -/
theorem equal_equivalence :
    Equivalence (fun left right : { value : Json // IsProper value } =>
        left.1.equal right.1 = true) ∧
      ∀ value other, IsProper value → Reordered value other → value.equal other = true := by
  have reflexive {value : Json} (proper : IsProper value) : value.equal value = true :=
    (equal_iff_sameValue proper proper).mpr (.refl proper.countedInside)
  refine ⟨⟨fun value => reflexive value.2, ?_, ?_⟩, ?_⟩
  · rintro ⟨left, leftProper⟩ ⟨right, rightProper⟩ equal
    rw [equal_iff_sameValue leftProper rightProper] at equal
    exact (equal_iff_sameValue rightProper leftProper).mpr (equal.symm leftProper.countedInside)
  · rintro ⟨first, firstProper⟩ ⟨second, secondProper⟩ ⟨third, thirdProper⟩ here there
    rw [equal_iff_sameValue firstProper secondProper] at here
    rw [equal_iff_sameValue secondProper thirdProper] at there
    exact (equal_iff_sameValue firstProper thirdProper).mpr
      (here.trans firstProper.countedInside there)
  · intro value other proper reordered
    rw [reordered.equal_eq proper]
    exact reflexive (proper.reordered reordered)

theorem equal_swappedInside :
    let a := (CodePoints.ofString "a", Json.boolean true)
    let b := (CodePoints.ofString "b", Json.array [Json.integer 1])
    let value := Json.array [Json.object [a, b], Json.null]
    let other := Json.array [Json.object [b, a], Json.null]
    IsProper value ∧ Reordered value other ∧ value.equal other = true := by
  intro a b value other
  have swapped : Reordered (.object [a, b]) (.object [b, a]) :=
    .object (.cons (.intro _ (.unchanged _)) (.cons (.intro _ (.unchanged _)) .nil))
      (.swap b a [])
  have reordered : Reordered value other := .array (.cons swapped (.cons (.unchanged _) .nil))
  have proper : IsProper value := by
    refine .array fun item member => ?_
    rcases List.mem_pair.mp member with rfl | rfl
    · refine .object (by decide) fun entry member => ?_
      rcases List.mem_pair.mp member with rfl | rfl
      · exact .boolean true
      · exact .array (List.forall_mem_singleton.mpr (.integer 1))
    · exact .null
  exact ⟨proper, reordered, equal_equivalence.2 value other proper reordered⟩

end Equality

end Json
end DiscoveryFiles
