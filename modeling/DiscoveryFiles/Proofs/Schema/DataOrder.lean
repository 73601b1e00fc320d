import DiscoveryFiles.Proofs.Json.Reordering
import DiscoveryFiles.Proofs.Schema.Alike

/-!
# The order of members in the data

An evaluation looks up the members of objects by name, and goes through them in their own order only
to report those that are not declared.  So values that differ in nothing but the order of members
stop it with the same fault, or have violations at the same places.
-/

namespace DiscoveryFiles
namespace Schema

open Json

section DataOrder

variable {context : Context} {base : Text} {location : Location} {followed : List CodePoints}
  {keywords : List (CodePoints × Json)} {data other : Json}

/-- Where a violation is, as it is shown and to the code point. -/
def Violation.spot (base : Text) (violation : Violation) : String × Location :=
  (violation.path base, violation.place)

/-! ## Keywords -/

private theorem typeViolation?_of_reordered (reordered : Reordered data other) :
    typeViolation? location keywords data = typeViolation? location keywords other := by
  cases reordered with
  | unchanged => rfl
  | array | object => simp [typeViolation?, hasType, isInteger, typeName]

private theorem agree_optionViolations (proper : IsProper data) (reordered : Reordered data other) :
    Agree (Alike (Violation.spot base)) (optionViolations location keywords data)
      (optionViolations location keywords other) := by
  rw [optionViolations, optionViolations]
  cases keyword? "enum" keywords with
  | none => exact .returned (.refl [])
  | some listed =>
      refine .bind_same fun options => ?_
      have accepted_eq : options.any data.equal = options.any other.equal := by
        rw [funext (reordered.equal_eq proper)]
      rw [accepted_eq]
      -- The two violations show different values, but their places do not depend on these.
      split
      · exact .returned (.refl [])
      · exact .returned (.refl _)

private theorem alike_constantViolations (proper : IsProper data)
    (reordered : Reordered data other) :
    Alike (Violation.spot base) (constantViolations location keywords data)
      (constantViolations location keywords other) := by
  rw [constantViolations, constantViolations]
  cases keyword? "const" keywords with
  | none => exact .refl []
  | some constant =>
      dsimp only
      rw [reordered.equal_eq proper]
      split
      · exact .refl []
      · exact .refl _

private theorem agree_ownViolations (proper : IsProper data) (reordered : Reordered data other) :
    Agree (Alike (Violation.spot base)) (ownViolations location keywords data)
      (ownViolations location keywords other) := by
  have options : Agree (Alike (Violation.spot base)) (optionViolations location keywords data)
      (optionViolations location keywords other) := agree_optionViolations proper reordered
  have constants : Alike (Violation.spot base) (constantViolations location keywords data)
      (constantViolations location keywords other) := alike_constantViolations proper reordered
  cases reordered with
  | unchanged => exact .refl .refl _
  | array | object => exact options.bind fun _ _ _ alike => .returned (constants.append alike)

/-! ## Members and items -/

private theorem requiredViolations_of_names {members others : List (CodePoints × Json)}
    (names : ∀ name, (member? name members).isSome = (member? name others).isSome)
    (keys : List Json) :
    requiredViolations base location members keys =
      requiredViolations base location others keys := by
  rw [requiredViolations_eq_gather, requiredViolations_eq_gather]
  refine gather_congr fun key _ => ?_
  cases key with
  | string name => rw [requiredViolation, requiredViolation, names]
  | array | object => rw [requiredViolation, requiredViolation]
  | _ =>
      rw [requiredViolation, requiredViolation]
      all_goals simp

private theorem alike_undeclaredViolations {members others : List (CodePoints × Json)}
    (names : (members.map Prod.fst).Perm (others.map Prod.fst))
    (declared : List (CodePoints × Json)) :
    Alike (Violation.spot base) (undeclaredViolations location keywords declared members)
      (undeclaredViolations location keywords declared others) := by
  have reported (entries : List (CodePoints × Json)) :
      (entries.filter fun entry => (member? entry.1 declared).isNone).map
          (fun entry => (⟨location, .undeclared entry.1⟩ : Violation)) =
        ((entries.map Prod.fst).filter fun name => (member? name declared).isNone).map
          fun name => ⟨location, .undeclared name⟩ := by
    rw [List.filter_map, List.map_map]
    rfl
  rw [undeclaredViolations, undeclaredViolations]
  split
  · rw [reported, reported]
    exact ((names.filter _).map _).map _
  · exact .refl []

/-- The outcome of an evaluation is the same for all orders of members, as far as the places of
violations go. -/
def OverlooksOrder (context : Context) (location : Location) (followed : List CodePoints)
    (schema data : Json) : Prop :=
  IsProper data → ∀ other, Reordered data other →
    Agree (Alike (Violation.spot context.base)) (check context location followed schema data)
      (check context location followed schema other)

private theorem agree_checkMembers {members between others : List (CodePoints × Json)}
    (proper : IsProper (.object members))
    (each : List.Forall₂ ReorderedMember members between) (perm : between.Perm others)
    (inner : ∀ name value, member? name members = some value →
      ∀ location subschema, OverlooksOrder context location [] subschema value)
    (declared : List (CodePoints × Json)) :
    Agree (Alike (Violation.spot context.base)) (checkMembers context location members declared)
      (checkMembers context location others declared) := by
  cases proper with
  | object distinct memberProper =>
      rw [checkMembers_eq_gather, checkMembers_eq_gather]
      refine agree_gather (List.forall₂_same.mpr fun entry _ => ?_)
      rcases member?_reordered distinct each perm entry.1 with
        ⟨absent, absent'⟩ | ⟨value, other, found, found', reordered⟩
      · rw [absent, absent', checkMember]
        exact .returned (.refl [])
      · rw [found, found', checkMember, checkMember]
        exact inner entry.1 value found _ entry.2 (memberProper _ (mem_of_member? found)) other
          reordered

private theorem agree_checkItems {items others : List Json} {schema : Json}
    (each : List.Forall₂ (fun item other => ∀ location, Agree
      (Alike (Violation.spot context.base)) (check context location [] schema item)
        (check context location [] schema other)) items others) (index : ℕ) :
    Agree (Alike (Violation.spot context.base)) (checkItems context location schema index items)
      (checkItems context location schema index others) := by
  induction each generalizing index with
  | nil => exact .refl .refl _
  | cons head _ induction =>
      rw [checkItems, checkItems]
      exact agree_append (head _) (induction (index + 1))

private theorem agree_checkInside_of_reordered (proper : IsProper data)
    (reordered : Reordered data other)
    (ofMembers : ∀ members name value, data = .object members →
      member? name members = some value →
      ∀ location subschema, OverlooksOrder context location [] subschema value)
    (ofItems : ∀ items item, data = .array items → item ∈ items →
      ∀ location subschema, OverlooksOrder context location [] subschema item) :
    Agree (Alike (Violation.spot context.base)) (checkInside context location keywords data)
      (checkInside context location keywords other) := by
  cases reordered with
  | unchanged => exact .refl .refl _
  | @array items others each =>
      cases proper with
      | array itemProper =>
          rw [checkInside, checkInside, each.length_eq]
          refine .bind_same fun length => ?_
          refine (agree_checkItems (forall₂_imp_of_mem each ?_) 0).bind fun _ _ _ alike => ?_
          · intro item member other reordered location
            exact ofItems items item rfl member location _ (itemProper item member) other reordered
          · exact .returned (Alike.append (.refl length) alike)
  | @object members between others each perm =>
      have names : (members.map Prod.fst).Perm (others.map Prod.fst) :=
        map_fst_eq_of_forall₂ ReorderedMember.name_eq each ▸ perm.map Prod.fst
      have distinct : (members.map Prod.fst).Nodup := by
        cases proper with
        | object distinct => exact distinct
      have names_eq := (names_perm_iff distinct (names.nodup distinct)).mp names
      rw [checkInside, checkInside]
      refine .bind_same fun keys => ?_
      rw [requiredViolations_of_names names_eq]
      refine .bind_same fun required => .bind_same fun declared => ?_
      refine (agree_checkMembers proper each perm ?_ declared).bind fun _ _ _ alike => ?_
      · exact fun name value found => ofMembers members name value rfl found
      · exact .returned ((Alike.append (.refl required) alike).append
          (alike_undeclaredViolations names declared))

/-! ## Evaluations -/

private theorem agree_follow_of_reordered {reference : Json} (proper : IsProper data)
    (reordered : Reordered data other)
    (inner : ∀ name target, target? context.root reference = .ok (some (name, target)) →
      name ∉ followed → OverlooksOrder context location (name :: followed) target data) :
    Agree (Alike (Violation.spot context.base)) (follow context location followed reference data)
      (follow context location followed reference other) := by
  rw [follow_eq, follow_eq]
  split
  · exact .stopped _
  · exact .returned (.refl _)
  next name target found =>
    split
    · exact .stopped .endless
    next fresh => exact inner name target found fresh proper other reordered

/-- At every node, the order of members is overlooked if it is by the subevaluations. -/
theorem overlooksOrder_node {schema : Json}
    (descends : Descends context (OverlooksOrder context) location followed schema data) :
    OverlooksOrder context location followed schema data := by
  intro proper other reordered
  cases schema with
  | object keywords =>
      refine agree_check_object ?_ rfl ?_ (typeViolation?_of_reordered reordered)
        (agree_ownViolations proper reordered)
        (agree_checkInside_of_reordered proper reordered descends.members descends.items)
      · rw [checkAlternatives.eq_def, checkAlternatives.eq_def]
        split
        · rfl
        next subschemas given =>
          have each (subschema : Json) (member : subschema ∈ subschemas) :=
            descends.alternatives keywords subschemas rfl given subschema member proper other
              reordered
          exact anyAccepts_eq_of_agree (List.forall₂_same.mpr each)
        · rfl
      · intro reference given
        exact agree_follow_of_reordered proper reordered (descends.reference reference)
  | _ => simpa [check] using Agree.returned (.refl [])

private theorem overlooksOrder (context : Context) (location : Location)
    (followed : List CodePoints)
    (schema data : Json) : OverlooksOrder context location followed schema data :=
  check_induction context (fun _ _ _ _ => overlooksOrder_node) location followed schema data

end DataOrder

/-- Two values that differ in nothing but the order of members stop an evaluation with the same
fault, or have equally many violations at the same places, so with the same paths, and none if the
other has none. -/
theorem violations_of_reordered (root : Option Json) (base : Text) (schema : Json)
    {data other : Json} (proper : IsProper data) (reordered : Reordered data other) :
    (∃ fault, violations root base schema data = .error fault ∧
        violations root base schema other = .error fault) ∨
      ∃ found others, violations root base schema data = .ok found ∧
        violations root base schema other = .ok others ∧ found.length = others.length ∧
        (found.map (Violation.spot base)).Perm (others.map (Violation.spot base)) ∧
        (found.map (Violation.path base)).Perm (others.map (Violation.path base)) ∧
        (found = [] ↔ others = []) := by
  rw [violations_eq_check, violations_eq_check]
  have agree := overlooksOrder ⟨rootFor root schema, base⟩ [] [] schema data proper other reordered
  generalize check ⟨rootFor root schema, base⟩ [] [] schema data = first at agree ⊢
  generalize check ⟨rootFor root schema, base⟩ [] [] schema other = second at agree ⊢
  cases agree with
  | stopped fault => exact .inl ⟨fault, rfl, rfl⟩
  | @returned found others alike =>
      have paths : Alike (Violation.path base) found others := alike.map Prod.fst
      exact .inr ⟨found, others, rfl, rfl, alike.length_eq, alike, paths, alike.eq_nil_iff⟩

/-- A row with two members that are not declared has the same violations in either order. -/
theorem violations_of_reorderedRow :
    let name := (CodePoints.ofString "name", Json.words "oak")
    let note := (CodePoints.ofString "note", Json.null)
    let table (row : List (CodePoints × Json)) : Json :=
      .object [(CodePoints.ofString "rows", .array [.object row])]
    IsProper (table [name, note]) ∧ Reordered (table [name, note]) (table [note, name]) ∧
      ((∃ fault, violations none [] tables (table [name, note]) = .error fault ∧
          violations none [] tables (table [note, name]) = .error fault) ∨
        ∃ found others, violations none [] tables (table [name, note]) = .ok found ∧
          violations none [] tables (table [note, name]) = .ok others ∧
          found.length = others.length ∧
          (found.map (Violation.spot [])).Perm (others.map (Violation.spot [])) ∧
          (found.map (Violation.path [])).Perm (others.map (Violation.path [])) ∧
          (found = [] ↔ others = [])) := by
  intro name note table
  have rowProper : IsProper (.object [name, note]) := by
    refine .object (by decide) fun entry member => ?_
    rcases List.mem_pair.mp member with rfl | rfl
    · exact .string _
    · exact .null
  have proper : IsProper (table [name, note]) :=
    .object (List.nodup_singleton _)
      (List.forall_mem_singleton.mpr (.array (List.forall_mem_singleton.mpr rowProper)))
  have swapped : Reordered (.object [name, note]) (.object [note, name]) :=
    .object (.cons (.intro _ (.unchanged _)) (.cons (.intro _ (.unchanged _)) .nil))
      (.swap note name [])
  have reordered : Reordered (table [name, note]) (table [note, name]) :=
    .object (.cons (.intro _ (.array (.cons swapped .nil))) .nil) (.refl _)
  exact ⟨proper, reordered, violations_of_reordered none [] tables proper reordered⟩

end Schema
end DiscoveryFiles
