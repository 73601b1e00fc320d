import DiscoveryFiles.Text.Basic

/-!
# The order of code points

Texts are sorted as words in a dictionary, where characters stand in the order of their code points.
-/

namespace DiscoveryFiles
namespace Text

/-- A text stands before another one in the order of code points. -/
def Before : Text → Text → Prop :=
  List.Lex fun c d => c.toNat < d.toNat

/-- Where two texts differ first, the code points decide. -/
theorem before_cons_iff {c d : Char} {text other : Text} :
    Before (c :: text) (d :: other) ↔ c.toNat < d.toNat ∨ c = d ∧ Before text other := by
  constructor
  · intro before
    cases before with
    | rel smaller => exact .inl smaller
    | cons behind => exact .inr ⟨rfl, behind⟩
  · rintro (smaller | ⟨rfl, behind⟩)
    · exact .rel smaller
    · exact .cons behind

private theorem precedes_cons_iff {c d : Char} {text other : Text} :
    precedes (c :: text) (d :: other) = true ↔
      c.toNat < d.toNat ∨ c = d ∧ precedes text other = true := by
  simp [precedes]

private theorem precedes_iff {text other : Text} :
    precedes text other = true ↔ Before text other ∨ text = other := by
  induction text generalizing other with
  | nil =>
      cases other with
      | nil => simp [precedes]
      | cons d other => exact iff_of_true rfl (.inl .nil)
  | cons c text induction =>
      cases other with
      | nil => simp [precedes, Before]
      | cons d other =>
          rw [precedes_cons_iff, before_cons_iff, induction, List.cons.injEq, and_or_left, or_assoc]

private theorem precedes_trans (first second third : Text) (above : precedes first second = true)
    (below : precedes second third = true) : precedes first third = true := by
  induction first generalizing second third with
  | nil => rfl
  | cons c first induction =>
      cases second with
      | nil => cases above
      | cons d second =>
          cases third with
          | nil => cases below
          | cons e third =>
              rw [precedes_cons_iff] at above below ⊢
              rcases above with smaller | ⟨rfl, above⟩ <;> rcases below with greater | ⟨rfl, below⟩
              · exact .inl (Nat.lt_trans smaller greater)
              · exact .inl smaller
              · exact .inl greater
              · exact .inr ⟨rfl, induction second third above below⟩

private theorem precedes_total (first second : Text) :
    (precedes first second || precedes second first) = true := by
  rw [Bool.or_eq_true]
  induction first generalizing second with
  | nil => exact .inl rfl
  | cons c first induction =>
      cases second with
      | nil => exact .inr rfl
      | cons d second =>
          rw [precedes_cons_iff, precedes_cons_iff]
          rcases Nat.lt_trichotomy c.toNat d.toNat with smaller | same | greater
          · exact .inl (.inl smaller)
          · obtain rfl := Char.toNat_inj.mp same
            exact (induction second).imp (fun above => .inr ⟨rfl, above⟩) fun below =>
              .inr ⟨rfl, below⟩
          · exact .inr (.inl greater)

variable (texts : List Text)

theorem pairwise_mergeSort :
    (texts.mergeSort precedes).Pairwise fun text other => Before text other ∨ text = other :=
  (List.pairwise_mergeSort precedes_trans precedes_total texts).imp precedes_iff.mp

/-- Texts of which no two are the same stand strictly one before the other. -/
theorem pairwise_before_mergeSort (distinct : texts.Nodup) :
    (texts.mergeSort precedes).Pairwise Before := by
  have apart : (texts.mergeSort precedes).Nodup :=
    (List.mergeSort_perm texts precedes).nodup_iff.mpr distinct
  exact ((pairwise_mergeSort texts).and apart).imp fun ⟨ordered, other⟩ =>
    ordered.resolve_right other

end Text
end DiscoveryFiles
