import DiscoveryFiles.Proofs.Json.Grammar
import DiscoveryFiles.Proofs.Json.Member
import Mathlib.Data.List.Induction

/-!
# Repeated names

The members that are left of a sequence of named values are those that the grammar asks for, and no
others: every name once, where it came first, with its last value.
-/

namespace DiscoveryFiles
namespace Json

section Put

variable (name : CodePoints) (value : Json) (members : List (CodePoints × Json))

private theorem map_fst_put :
    (put name value members).map Prod.fst =
      if name ∈ members.map Prod.fst then members.map Prod.fst
      else members.map Prod.fst ++ [name] := by
  induction members with
  | nil => rfl
  | cons entry members induction =>
      obtain ⟨key, old⟩ := entry
      by_cases same : key = name
      · simp [put, same]
      · rw [put, if_neg same, List.map_cons, induction, List.map_cons]
        by_cases inTail : name ∈ members.map Prod.fst
        · rw [if_pos inTail, if_pos (List.mem_cons_of_mem key inTail)]
        · rw [if_neg inTail, if_neg, List.cons_append]
          exact List.not_mem_cons_of_ne_of_not_mem (Ne.symm same) inTail

private theorem member?_put (key : CodePoints) :
    member? key (put name value members) =
      if key = name then some value else member? key members := by
  induction members with
  | nil =>
      by_cases same : key = name
      · simp [put, member?, same]
      · simp [put, member?, same, List.lookup_cons, beq_eq_false_iff_ne.mpr same]
  | cons entry members induction =>
      obtain ⟨first, old⟩ := entry
      simp only [member?] at induction ⊢
      by_cases here : key = first
      · subst here
        by_cases same : key = name <;> simp [put, same]
      · have passed : (key == first) = false := beq_eq_false_iff_ne.mpr here
        by_cases same : first = name
        · subst same
          simp [put, List.lookup_cons, passed, here]
        · simp [put, same, List.lookup_cons, passed, induction]

end Put

private theorem collect_concat (entries : List (CodePoints × Json)) (entry : CodePoints × Json) :
    collect (entries ++ [entry]) = put entry.1 entry.2 (collect entries) := by
  simp [collect]

private theorem nodup_map_fst_collect (entries : List (CodePoints × Json)) :
    ((collect entries).map Prod.fst).Nodup := by
  induction entries using List.reverseRecOn with
  | nil => exact List.nodup_nil
  | append_singleton entries entry induction =>
      rw [collect_concat, map_fst_put]
      split
      · exact induction
      next fresh =>
        rw [← List.concat_eq_append]
        exact induction.concat fresh

theorem gathers_collect (entries : List (CodePoints × Json)) :
    Gathers entries (collect entries) := by
  induction entries using List.reverseRecOn with
  | nil => exact ⟨rfl, fun _ => rfl⟩
  | append_singleton entries entry induction =>
      obtain ⟨names, values⟩ := induction
      rw [collect_concat]
      constructor
      · rw [map_fst_put, names, List.map_append, List.eraseDups_append]
        by_cases known : entry.1 ∈ entries.map Prod.fst
        · simp [known, List.removeAll]
        · simp [known, List.removeAll, List.eraseDups_cons]
      · intro name
        rw [member?_put, values, List.reverse_append, List.reverse_singleton,
          List.singleton_append, member?, member?, List.lookup_cons]
        by_cases here : name = entry.1
        · simp [here]
        · rw [if_neg here, beq_eq_false_iff_ne.mpr here]

/-- Objects with the same distinct names in the same order are the same if every name has the same
value in both. -/
theorem eq_of_member? {members others : List (CodePoints × Json)}
    (names : members.map Prod.fst = others.map Prod.fst)
    (distinct : (members.map Prod.fst).Nodup)
    (values : ∀ name, member? name members = member? name others) : members = others := by
  induction members generalizing others with
  | nil => exact (List.map_eq_nil_iff.mp names.symm).symm
  | cons entry members induction =>
      obtain ⟨other, others, rfl, same, tails⟩ := List.map_eq_cons_iff.mp names.symm
      obtain ⟨fresh, tail_distinct⟩ := List.nodup_cons.mp distinct
      obtain ⟨name, value⟩ := entry
      obtain ⟨otherName, otherValue⟩ := other
      obtain rfl : otherName = name := same
      obtain rfl : value = otherValue := by simpa [member?] using values otherName
      have absent {entries : List (CodePoints × Json)}
          (missing : otherName ∉ entries.map Prod.fst) : member? otherName entries = none := by
        rwa [← Option.not_isSome_iff_eq_none, isSome_member?_iff]
      refine congrArg (List.cons _) (induction tails.symm tail_distinct fun key => ?_)
      by_cases here : key = otherName
      · subst here
        rw [absent fresh, absent (tails ▸ fresh)]
      · simpa [member?, List.lookup_cons, beq_eq_false_iff_ne.mpr here] using values key

/-- What is left of a sequence of named values is what the grammar asks for. -/
theorem gathers_iff {entries members : List (CodePoints × Json)} :
    Gathers entries members ↔ members = collect entries := by
  constructor
  · rintro ⟨names, values⟩
    obtain ⟨collected, kept⟩ := gathers_collect entries
    refine (eq_of_member? (collected.trans names.symm) (nodup_map_fst_collect entries)
      fun name => ?_).symm
    rw [values, kept]
  · rintro rfl
    exact gathers_collect entries

end Json
end DiscoveryFiles
