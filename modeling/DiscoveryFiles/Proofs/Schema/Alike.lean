import DiscoveryFiles.Proofs.Schema.Place

/-!
# Alike evaluations

Two evaluations of alike schemas at alike values are stopped by the same fault, or lead to the same
violations as far as one looks at them, in some order.  This passes from the steps of an evaluation
to the whole.
-/

namespace DiscoveryFiles
namespace Schema

/-! ## Outcomes that agree -/

/-- Two evaluations are stopped by the same fault or return related results. -/
inductive Agree {α β : Type} (R : α → β → Prop) : Except Fault α → Except Fault β → Prop where
  /-- Both are stopped. -/
  | stopped (fault : Fault) : Agree R (.error fault) (.error fault)
  /-- Both return. -/
  | returned {x : α} {y : β} (related : R x y) : Agree R (.ok x) (.ok y)

section Agree

variable {α β γ δ : Type} {R : α → β → Prop} {S : γ → δ → Prop}

theorem Agree.refl {R : α → α → Prop} (reflexive : ∀ x, R x x) (outcome : Except Fault α) :
    Agree R outcome outcome := by
  cases outcome with
  | error fault => exact .stopped fault
  | ok x => exact .returned (reflexive x)

theorem Agree.exists_related {first : Except Fault α} {second : Except Fault β} {x : α}
    (agree : Agree R first second) (returned : first = .ok x) : ∃ y, second = .ok y ∧ R x y := by
  cases agree with
  | stopped => cases returned
  | returned related =>
      cases returned
      exact ⟨_, rfl, related⟩

theorem Agree.bind {first : Except Fault α} {second : Except Fault β} {next : α → Except Fault γ}
    {other : β → Except Fault δ} (here : Agree R first second)
    (later : ∀ x y, first = .ok x → R x y → Agree S (next x) (other y)) :
    Agree S (first >>= next) (second >>= other) := by
  cases here with
  | stopped fault => exact .stopped fault
  | returned related => exact later _ _ rfl related

theorem Agree.map {first : Except Fault α} {second : Except Fault β} {f : α → γ} {g : β → δ}
    (agree : Agree R first second) (related : ∀ x y, R x y → S (f x) (g y)) :
    Agree S (first.map f) (second.map g) := by
  cases agree with
  | stopped fault => exact .stopped fault
  | returned here => exact .returned (related _ _ here)

/-- Two sequences that begin in the same way agree if what follows does. -/
theorem Agree.bind_same {outcome : Except Fault α} {next : α → Except Fault γ}
    {other : α → Except Fault δ} (later : ∀ x, Agree S (next x) (other x)) :
    Agree S (outcome >>= next) (outcome >>= other) :=
  (Agree.refl Eq.refl outcome).bind fun x _ _ same => same ▸ later x

end Agree

/-! ## Violations that look alike -/

section Alike

variable {α : Type} {view : Violation → α}

/-- Two lists of violations look the same in some order. -/
def Alike {α : Type} (view : Violation → α) (found others : List Violation) : Prop :=
  (found.map view).Perm (others.map view)

theorem Alike.refl (found : List Violation) : Alike view found found :=
  List.Perm.refl (found.map view)

theorem Alike.append {found others more further : List Violation} (here : Alike view found others)
    (after : Alike view more further) : Alike view (found ++ more) (others ++ further) := by
  rw [Alike, List.map_append, List.map_append]
  exact List.Perm.append here after

/-- What looks the same still does if less of it is looked at. -/
theorem Alike.map {β : Type} (see : α → β) {found others : List Violation}
    (alike : Alike view found others) : Alike (see ∘ view) found others := by
  rw [Alike, ← List.map_map, ← List.map_map]
  exact List.Perm.map see alike

theorem Alike.length_eq {found others : List Violation} (alike : Alike view found others) :
    found.length = others.length := by
  simpa using List.Perm.length_eq alike

theorem Alike.eq_nil_iff {found others : List Violation} (alike : Alike view found others) :
    found = [] ↔ others = [] := by
  rw [← List.length_eq_zero_iff, alike.length_eq, List.length_eq_zero_iff]

theorem agree_append {first second more further : Except Fault (List Violation)}
    (here : Agree (Alike view) first second) (after : Agree (Alike view) more further) :
    Agree (Alike view) (do return (← first) ++ (← more)) (do return (← second) ++ (← further)) :=
  here.bind fun _ _ _ alike => after.bind fun _ _ _ later => .returned (alike.append later)

/-- Loops lead to violations that look alike if their elements do, one by one. -/
theorem agree_gather {β γ : Type} {first : β → Except Fault (List Violation)}
    {second : γ → Except Fault (List Violation)} {elements : List β} {others : List γ}
    (each : List.Forall₂ (fun x y => Agree (Alike view) (first x) (second y)) elements others) :
    Agree (Alike view) (gather first elements) (gather second others) := by
  induction each with
  | nil => exact .returned (.refl [])
  | cons head _ induction => exact agree_append head induction

end Alike

/-! ## Nodes -/

section Node

variable {α : Type} {view : Violation → α} {context replaced : Context} {location : Location}
  {followed : List CodePoints} {keywords others : List (CodePoints × Json)} {data other : Json}

/-- Alternatives accept two values in the same way if they lead to alike violations. -/
theorem anyAccepts_eq_of_agree {subschemas further : List Json}
    (each : List.Forall₂ (fun subschema alternative => Agree (Alike view)
      (check context location followed subschema data)
      (check replaced location followed alternative other)) subschemas further) :
    anyAccepts context location followed subschemas data =
      anyAccepts replaced location followed further other := by
  induction each with
  | nil => rw [anyAccepts, anyAccepts]
  | @cons subschema alternative subschemas further head _ induction =>
      rw [anyAccepts, anyAccepts]
      generalize check context location followed subschema data = first at head
      generalize check replaced location followed alternative other = second at head
      cases head with
      | stopped fault => rfl
      | @returned found others alike =>
          have empty_iff := alike.eq_nil_iff
          cases found with
          | nil => rw [empty_iff.mp rfl]
          | cons violation found =>
              cases others with
              | nil => simp at empty_iff
              | cons => exact induction

/-- Two nodes lead to alike violations if their keywords do. -/
theorem agree_check_object
    (alternatives : checkAlternatives context location followed (keyword? "oneOf" keywords) data =
      checkAlternatives replaced location followed (keyword? "oneOf" others) other)
    (reference : keyword? "$ref" keywords = keyword? "$ref" others)
    (refers : ∀ reference, keyword? "$ref" keywords = some reference →
      Agree (Alike view) (follow context location followed reference data)
        (follow replaced location followed reference other))
    (type : typeViolation? location keywords data = typeViolation? location others other)
    (own : Agree (Alike view) (ownViolations location keywords data)
      (ownViolations location others other))
    (inside : Agree (Alike view) (checkInside context location keywords data)
      (checkInside replaced location others other)) :
    Agree (Alike view) (check context location followed (.object keywords) data)
      (check replaced location followed (.object others) other) := by
  rw [check, check, alternatives, reference, type]
  split
  · exact .stopped _
  · exact .returned (.refl _)
  · split
    next given => exact refers _ (reference.trans given)
    · split
      · exact .returned (.refl _)
      · exact agree_append own inside

end Node

end Schema
end DiscoveryFiles
