import DiscoveryFiles.Schema.Keyword

/-!
# References

A reference names a definition of the document.  While definitions are being followed at one value,
fewer and fewer of them are left to follow.
-/

namespace DiscoveryFiles
namespace Schema

/-- The name of the definition that a reference names, if it has the form of one. -/
def definitionName? : Json → Option CodePoints
  | .string s =>
      let start := CodePoints.ofString "#/$defs/"
      if start.isPrefixOf s then some (s.drop start.length) else none
  | _ => none

/-- The definitions of a document. -/
def definitions : Json → Except Fault (List (CodePoints × Json))
  | .object keywords =>
      match keyword? "$defs" keywords with
      | none => .ok []
      | some (.object definitions) => .ok definitions
      | some value => .error (.noMembers value.kindName "get")
  | value => .error (.noMembers value.kindName "get")

/-- The definition with a name; a null definition is none. -/
def definition? (name : CodePoints) (definitions : List (CodePoints × Json)) : Option Json :=
  match Json.member? name definitions with
  | none | some .null => none
  | some target => some target

/-- The name and the value of the definition that a reference leads to. -/
def target? (root reference : Json) : Except Fault (Option (CodePoints × Json)) :=
  match definitionName? reference with
  | none => .ok none
  | some name => (definitions root).map fun known => (definition? name known).map (name, ·)

/-- The number of definitions that are not being followed. -/
def unfollowed (root : Json) (followed : List CodePoints) : Nat :=
  match definitions root with
  | .ok definitions => (definitions.filter fun entry => !followed.contains entry.1).length
  | .error _ => 0

theorem member?_of_definition? {name : CodePoints} {definitions : List (CodePoints × Json)}
    {target : Json} (found : definition? name definitions = some target) :
    Json.member? name definitions = some target := by
  unfold definition? at found
  split at found <;> simp_all

theorem exists_mem_of_member? {name : CodePoints} {members : List (CodePoints × Json)}
    {value : Json} (found : Json.member? name members = some value) :
    ∃ entry ∈ members, entry.1 = name := by
  induction members with
  | nil => simp [Json.member?] at found
  | cons entry members induction =>
      obtain ⟨key, first⟩ := entry
      simp only [Json.member?, List.lookup_cons] at found
      split at found
      · rename_i same
        exact ⟨_, List.mem_cons_self, (beq_iff_eq.mp same).symm⟩
      · obtain ⟨entry, member, same⟩ := induction found
        exact ⟨entry, List.mem_cons_of_mem _ member, same⟩

theorem length_filter_lt {α : Type} {p q : α → Bool} {list : List α} {witness : α}
    (member : witness ∈ list) (holds : p witness = true) (fails : q witness = false)
    (weaker : ∀ x ∈ list, q x = true → p x = true) :
    (list.filter q).length < (list.filter p).length := by
  induction list with
  | nil => simp at member
  | cons head tail induction =>
      have tail_le : (tail.filter q).length ≤ (tail.filter p).length := by
        apply List.Sublist.length_le
        rw [show tail.filter q = (tail.filter p).filter q by
          rw [List.filter_filter]
          apply List.filter_congr
          intro x hx
          have := weaker x (List.mem_cons_of_mem head hx)
          cases hq : q x <;> simp_all]
        exact List.filter_sublist
      rcases List.mem_cons.mp member with rfl | inTail
      · rw [List.filter_cons_of_pos holds, List.filter_cons_of_neg (by simp [fails])]
        exact Nat.lt_succ_of_le tail_le
      · have strict := induction inTail fun x hx => weaker x (List.mem_cons_of_mem head hx)
        have head_weaker := weaker head List.mem_cons_self
        cases hq : q head with
        | true =>
            rw [List.filter_cons_of_pos hq, List.filter_cons_of_pos (head_weaker hq)]
            exact Nat.succ_lt_succ strict
        | false =>
            rw [List.filter_cons_of_neg (by simp [hq])]
            refine Nat.lt_of_lt_of_le strict (List.Sublist.length_le ?_)
            exact (List.sublist_cons_self head tail).filter p

theorem unfollowed_cons_lt {root reference : Json} {followed : List CodePoints}
    {name : CodePoints} {schema : Json} (found : target? root reference = .ok (some (name, schema)))
    (fresh : name ∉ followed) :
    unfollowed root (name :: followed) < unfollowed root followed := by
  unfold target? at found
  split at found
  · simp at found
  · match ok : definitions root with
    | .error fault => simp [ok, Except.map] at found
    | .ok known =>
        simp only [ok, Except.map, Except.ok.injEq, Option.map_eq_some_iff, Prod.mk.injEq] at found
        obtain ⟨_, found, rfl, _⟩ := found
        obtain ⟨entry, member, same⟩ := exists_mem_of_member? (member?_of_definition? found)
        simp only [unfollowed, ok]
        apply length_filter_lt member
        · simp [same, fresh]
        · simp [same]
        · intro x _ h
          simp_all

end Schema
end DiscoveryFiles
