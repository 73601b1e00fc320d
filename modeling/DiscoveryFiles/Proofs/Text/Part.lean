import DiscoveryFiles.Text.Basic
import Mathlib.Data.List.Infix

/-!
# Parts of texts

The tests for what a text begins with, ends with or holds, as statements about parts of lists.
-/

namespace DiscoveryFiles
namespace Text

theorem begins_iff {text : Text} {words : String} :
    text.begins words = true ↔ words.toList <+: text :=
  List.isPrefixOf_iff_prefix

theorem ends_iff {text : Text} {words : String} :
    text.ends words = true ↔ words.toList <:+ text :=
  List.isSuffixOf_iff_suffix

theorem fromSomewhere_iff {condition : Text → Bool} {text : Text} :
    text.fromSomewhere condition = true ↔ ∃ rest, rest <:+ text ∧ condition rest = true := by
  induction text with
  | nil => simp [fromSomewhere]
  | cons c text induction => simp [fromSomewhere, induction, List.suffix_cons_iff, or_and_right,
      exists_or]

theorem holds_iff {text part : Text} : text.holds part = true ↔ part <:+: text := by
  simp only [holds, fromSomewhere_iff, List.isPrefixOf_iff_prefix, List.infix_iff_prefix_suffix]
  exact exists_congr fun _ => And.comm

/-- A part without some element ends in front of it. -/
theorem prefix_of_prefix_append_cons {α : Type} {part before behind : List α} {c : α}
    (absent : c ∉ part) (front : part <+: before ++ c :: behind) : part <+: before := by
  refine List.prefix_of_prefix_length_le front (List.prefix_append before _) ?_
  by_contra longer
  -- The element stands in the part if the part reaches beyond it.
  have inside : before.length < part.length := by omega
  have found : part[before.length] = c := by
    rw [front.getElem inside]
    simp
  exact absent (found ▸ List.getElem_mem inside)

/-- A part without some character lies on one side of it. -/
theorem infix_append_cons_iff {part before behind : Text} {c : Char} (absent : c ∉ part) :
    part <:+: before ++ c :: behind ↔ part <:+: before ∨ part <:+: behind := by
  constructor
  · intro inside
    induction before with
    | nil =>
        rw [List.nil_append, List.infix_cons_iff] at inside
        refine inside.imp (fun front => ?_) id
        have alone : part <+: [] := prefix_of_prefix_append_cons absent front
        exact alone.isInfix
    | cons d before induction =>
        rw [List.cons_append, List.infix_cons_iff] at inside
        rcases inside with front | later
        · have ended : part <+: d :: before := prefix_of_prefix_append_cons absent front
          exact .inl ended.isInfix
        · exact (induction later).imp (fun found => List.infix_cons found) id
  · rintro (inside | inside)
    · exact inside.trans (List.prefix_append before _).isInfix
    · exact inside.trans ((List.suffix_cons c behind).trans (List.suffix_append before _)).isInfix

end Text
end DiscoveryFiles
