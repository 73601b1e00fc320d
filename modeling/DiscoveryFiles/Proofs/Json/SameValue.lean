import Mathlib.Data.List.Forall2
import DiscoveryFiles.Json.Equality
import DiscoveryFiles.Proofs.Json.Member
import DiscoveryFiles.Proofs.Number.Scaled

/-!
# The same JSON value

Two notations stand for the same JSON value when their numbers have the same exact values and their
objects have the same values under the same names.  Truth values are no numbers.  The comparison of
values inside arrays and objects is this relation on values whose truth values are counted.
-/

namespace DiscoveryFiles
namespace Json

/-- A value as JSON has it: the members of an object have distinct names, and every number has a
value. -/
inductive IsProper : Json → Prop where
  /-- The value `null`. -/
  | null : IsProper .null
  /-- A truth value. -/
  | boolean (b : Bool) : IsProper (.boolean b)
  /-- An integer. -/
  | integer (n : Int) : IsProper (.integer n)
  /-- A floating-point number. -/
  | double {x : Binary64} (number : x ≠ .nan) : IsProper (.double x)
  /-- A string. -/
  | string (s : CodePoints) : IsProper (.string s)
  /-- An array of such values. -/
  | array {items : List Json} (inner : ∀ item ∈ items, IsProper item) : IsProper (.array items)
  /-- An object with such values under distinct names. -/
  | object {members : List (CodePoints × Json)} (distinct : (members.map Prod.fst).Nodup)
      (inner : ∀ entry ∈ members, IsProper entry.2) : IsProper (.object members)

/-- The exact value of a finite number. -/
def rational? : Json → Option ℚ
  | integer n => some n
  | double (.finite negative significand exponent) =>
      some (scaled (Binary64.signed negative significand) exponent)
  | _ => none

/-- Two notations stand for the same JSON value. -/
inductive SameValue : Json → Json → Prop where
  /-- Both are null. -/
  | null : SameValue .null .null
  /-- Both are the same truth value. -/
  | boolean (b : Bool) : SameValue (.boolean b) (.boolean b)
  /-- Both are finite numbers with the same exact value. -/
  | number {left right : Json} {value : ℚ} (left_eq : left.rational? = some value)
      (right_eq : right.rational? = some value) : SameValue left right
  /-- Both are beyond all numbers on the same side. -/
  | infinite (negative : Bool) :
      SameValue (.double (.infinite negative)) (.double (.infinite negative))
  /-- Both are the same string. -/
  | string (s : CodePoints) : SameValue (.string s) (.string s)
  /-- Both are arrays of the same values. -/
  | array {items others : List Json} (each : List.Forall₂ SameValue items others) :
      SameValue (.array items) (.array others)
  /-- Both are objects with the same values under the same names. -/
  | object {members others : List (CodePoints × Json)}
      (names : ∀ name, (member? name members).isSome = (member? name others).isSome)
      (each : ∀ name value other, member? name members = some value →
        member? name others = some other → SameValue value other) :
      SameValue (.object members) (.object others)

mutual

/-- A value with the numbers zero and one in the place of truth values. -/
def counted : Json → Json
  | boolean b => integer b.toNat
  | array items => array (countedItems items)
  | object members => object (countedMembers members)
  | value => value

/-- Items with the numbers zero and one in the place of truth values. -/
def countedItems : List Json → List Json
  | [] => []
  | item :: items => counted item :: countedItems items

/-- Members with the numbers zero and one in the place of truth values. -/
def countedMembers : List (CodePoints × Json) → List (CodePoints × Json)
  | [] => []
  | (name, value) :: members => (name, counted value) :: countedMembers members

end

/-- A value with the numbers zero and one in the place of the truth values that it holds.  A truth
value itself stays what it is. -/
def countedInside : Json → Json
  | boolean b => boolean b
  | value => value.counted

/-- At some place of two values, a truth value of one of them meets the number that it counts as. -/
@[mk_iff]
inductive Clashes : Json → Json → Prop where
  /-- The first value is the truth value. -/
  | truth (b : Bool) {number : Json} (counts : number.rational? = some (b.toNat : ℚ)) :
      Clashes (.boolean b) number
  /-- The second value is the truth value. -/
  | number (b : Bool) {number : Json} (counts : number.rational? = some (b.toNat : ℚ)) :
      Clashes number (.boolean b)
  /-- Two items at the same place meet in this way. -/
  | item {items others : List Json} {item other : Json} (meet : (item, other) ∈ items.zip others)
      (inner : Clashes item other) : Clashes (.array items) (.array others)
  /-- Two members of the same name meet in this way. -/
  | member {members others : List (CodePoints × Json)} {name : CodePoints} {value other : Json}
      (left_eq : member? name members = some value) (right_eq : member? name others = some other)
      (inner : Clashes value other) : Clashes (.object members) (.object others)

/-! ## Values that are the same -/

section SameValue

variable {left right : Json} {items : List Json} {members : List (CodePoints × Json)}

/-- A value that is no number and holds no others is only the same as itself. -/
theorem sameValue_iff_eq (notNumber : left.rational? = none) (notNan : left ≠ .double .nan)
    (notArray : ∀ items, left ≠ .array items) (notObject : ∀ members, left ≠ .object members) :
    SameValue left right ↔ right = left := by
  constructor
  · intro same
    cases same with
    | number left_eq => rw [left_eq] at notNumber; cases notNumber
    | array => exact absurd rfl (notArray _)
    | object => exact absurd rfl (notObject _)
    | _ => rfl
  · rintro rfl
    cases right with
    | null => exact .null
    | boolean b => exact .boolean b
    | integer => cases notNumber
    | double x =>
        cases x with
        | nan => exact absurd rfl notNan
        | infinite negative => exact .infinite negative
        | finite => cases notNumber
    | string s => exact .string s
    | array => exact absurd rfl (notArray _)
    | object => exact absurd rfl (notObject _)

@[simp]
theorem sameValue_null_iff : SameValue .null right ↔ right = .null :=
  sameValue_iff_eq rfl (by simp) (by simp) (by simp)

@[simp]
theorem sameValue_boolean_iff {b : Bool} : SameValue (.boolean b) right ↔ right = .boolean b :=
  sameValue_iff_eq rfl (by simp) (by simp) (by simp)

@[simp]
theorem sameValue_string_iff {s : CodePoints} :
    SameValue (.string s) right ↔ right = .string s :=
  sameValue_iff_eq rfl (by simp) (by simp) (by simp)

@[simp]
theorem sameValue_infinite_iff {negative : Bool} :
    SameValue (.double (.infinite negative)) right ↔ right = .double (.infinite negative) :=
  sameValue_iff_eq rfl (by simp) (by simp) (by simp)

theorem sameValue_iff_of_rational? {value : ℚ} (left_eq : left.rational? = some value) :
    SameValue left right ↔ right.rational? = some value := by
  constructor
  · intro same
    cases same with
    | number other_eq right_eq => rw [right_eq, ← other_eq, left_eq]
    | _ => cases left_eq
  · exact .number left_eq

theorem sameValue_array_iff :
    SameValue (.array items) right ↔
      ∃ others, right = .array others ∧ List.Forall₂ SameValue items others := by
  constructor
  · intro same
    cases same with
    | array each => exact ⟨_, rfl, each⟩
    | number left_eq => cases left_eq
  · rintro ⟨others, rfl, each⟩
    exact .array each

theorem sameValue_object_iff :
    SameValue (.object members) right ↔ ∃ others, right = .object others ∧
      (∀ name, (member? name members).isSome = (member? name others).isSome) ∧
      ∀ name value other, member? name members = some value →
        member? name others = some other → SameValue value other := by
  constructor
  · intro same
    cases same with
    | object names each => exact ⟨_, rfl, names, each⟩
    | number left_eq => cases left_eq
  · rintro ⟨others, rfl, names, each⟩
    exact .object names each

end SameValue

/-! ## Values whose truth values are counted -/

section Counted

variable {left right : Json}

theorem countedItems_eq_map (items : List Json) : countedItems items = items.map counted := by
  induction items with
  | nil => rfl
  | cons item items induction => rw [countedItems, List.map_cons, induction]

theorem member?_countedMembers (name : CodePoints) (members : List (CodePoints × Json)) :
    member? name (countedMembers members) = (member? name members).map counted := by
  induction members with
  | nil => rfl
  | cons entry members induction =>
      rw [countedMembers, member?, member?, List.lookup_cons, List.lookup_cons]
      split
      · rfl
      · exact induction

/-- The number that a value stands for is the one that the comparison takes it for. -/
theorem rational?_counted (value : Json) :
    value.counted.rational? =
      value.quantity?.bind fun
        | .scaled a e => some (scaled a e)
        | _ => none := by
  cases value with
  | boolean b => simp [counted, rational?, quantity?, scaled_zero_right]
  | integer n => simp [counted, rational?, quantity?, scaled_zero_right]
  | double x => cases x <;> rfl
  | _ => rfl

private theorem sameAtom_eq {quantity : Quantity} (left_eq : left.quantity? = some quantity) :
    sameAtom left right = right.quantity?.any quantity.same := by
  unfold sameAtom
  split
  · cases left_eq
  · cases left_eq
  · rw [left_eq]
    cases right.quantity? <;> rfl

/-- A finite number is compared by its exact value. -/
theorem sameAtom_iff_of_scaled {a e : ℤ} (left_eq : left.quantity? = some (.scaled a e)) :
    sameAtom left right = true ↔ SameValue left.counted right.counted := by
  have left_value : left.counted.rational? = some (scaled a e) := by
    rw [rational?_counted, left_eq]
    rfl
  rw [sameValue_iff_of_rational? left_value, rational?_counted, sameAtom_eq left_eq]
  cases right.quantity? with
  | none => simp
  | some quantity =>
      cases quantity with
      | scaled b f =>
          rw [Option.any_some, Quantity.same, beq_iff_eq, compareScaled_eq_eq_iff]
          simp [eq_comm]
      | _ => simp [Quantity.same]

/-- A value that is neither an array nor an object is compared by itself or by its exact value. -/
theorem sameAtom_iff (notNan : left ≠ .double .nan) (notArray : ∀ items, left ≠ .array items)
    (notObject : ∀ members, left ≠ .object members) :
    sameAtom left right = true ↔ SameValue left.counted right.counted := by
  cases left with
  | null =>
      rw [counted, sameValue_null_iff]
      · cases right <;> simp [sameAtom, counted, quantity?]
      all_goals simp
  | boolean b => exact sameAtom_iff_of_scaled rfl
  | integer n => exact sameAtom_iff_of_scaled rfl
  | double x =>
      cases x with
      | nan => exact absurd rfl notNan
      | finite => exact sameAtom_iff_of_scaled rfl
      | infinite negative =>
          rw [sameAtom_eq rfl, counted, sameValue_infinite_iff]
          · cases right with
            | double y =>
                cases y <;> simp [counted, quantity?, Quantity.same, eq_comm (a := negative)]
            | _ => simp [counted, quantity?, Quantity.same]
          all_goals simp
  | string s =>
      rw [counted, sameValue_string_iff]
      · cases right with
        | string t => simpa [sameAtom, counted] using eq_comm
        | _ => simp [sameAtom, counted, quantity?]
      all_goals simp
  | array => exact absurd rfl (notArray _)
  | object => exact absurd rfl (notObject _)

private theorem sameItems_iff {items others : List Json} :
    sameItems items others = true ↔
      List.Forall₂ (fun item other => same item other = true) items others := by
  induction items generalizing others with
  | nil => cases others <;> simp [sameItems]
  | cons item items induction => cases others <;> simp [sameItems, induction]

theorem sameMembers_iff {members others : List (CodePoints × Json)} :
    sameMembers members others = true ↔ ∀ entry ∈ members, ∃ other,
      member? entry.1 others = some other ∧ same entry.2 other = true := by
  induction members with
  | nil => simp [sameMembers]
  | cons entry members induction =>
      rw [sameMembers, Bool.and_eq_true, induction, List.forall_mem_cons]
      refine and_congr_left fun _ => ?_
      cases member? entry.1 others <;> simp

/-- Objects are found to be the same when they have the same names and, under each of them, values
that are found to be the same. -/
theorem same_object_iff {members others : List (CodePoints × Json)}
    (distinct : (members.map Prod.fst).Nodup) (othersDistinct : (others.map Prod.fst).Nodup) :
    same (.object members) (.object others) = true ↔
      (∀ name, (member? name members).isSome = (member? name others).isSome) ∧
        ∀ name value other, member? name members = some value →
          member? name others = some other → same value other = true := by
  rw [same, Bool.and_eq_true, beq_iff_eq, sameMembers_iff]
  constructor
  · rintro ⟨length_eq, found⟩
    have present : ∀ entry ∈ members, (member? entry.1 others).isSome = true := by
      intro entry member
      obtain ⟨other, other_eq, -⟩ := found entry member
      rw [other_eq, Option.isSome_some]
    have names := names_perm_of_length_eq distinct length_eq present
    refine ⟨(names_perm_iff distinct othersDistinct).mp names, ?_⟩
    intro name value other left_eq right_eq
    obtain ⟨_, other_eq, same_eq⟩ := found _ (mem_of_member? left_eq)
    rw [right_eq, Option.some.injEq] at other_eq
    exact other_eq ▸ same_eq
  · rintro ⟨names, each⟩
    have names_perm := (names_perm_iff distinct othersDistinct).mpr names
    refine ⟨by simpa using names_perm.length_eq, fun entry member => ?_⟩
    have left_eq := (member?_eq_some_iff distinct).mpr member
    obtain ⟨other, right_eq⟩ : ∃ other, member? entry.1 others = some other := by
      rw [← Option.isSome_iff_exists, ← names, left_eq, Option.isSome_some]
    exact ⟨other, right_eq, each entry.1 entry.2 other left_eq right_eq⟩

/-- Values inside arrays and objects are found to be the same when they are so with their truth
values counted. -/
theorem same_iff_sameValue (leftProper : IsProper left) (rightProper : IsProper right) :
    same left right = true ↔ SameValue left.counted right.counted := by
  induction leftProper generalizing right with
  | null | boolean | integer | string =>
      rw [same]
      · exact sameAtom_iff (by simp) (by simp) (by simp)
      all_goals simp
  | double number =>
      rw [same]
      · exact sameAtom_iff (by simpa using number) (by simp) (by simp)
      all_goals simp
  | @array items inner induction =>
      rw [counted, countedItems_eq_map, sameValue_array_iff]
      cases rightProper with
      | @array others othersProper =>
          rw [same, sameItems_iff, counted, countedItems_eq_map]
          simp only [array.injEq, exists_eq_left', List.forall₂_map_left_iff,
            List.forall₂_map_right_iff]
          exact forall₂_congr fun item member other otherMember =>
            induction item member (othersProper other otherMember)
      | _ => simp [same, counted]
  | @object members distinct inner induction =>
      rw [counted, sameValue_object_iff]
      cases rightProper with
      | @object others othersDistinct othersProper =>
          rw [same_object_iff distinct othersDistinct, counted]
          simp only [object.injEq, exists_eq_left', member?_countedMembers, Option.isSome_map,
            Option.map_eq_some_iff]
          have inner_iff {name : CodePoints} {value other : Json}
              (left_eq : member? name members = some value)
              (right_eq : member? name others = some other) :=
            induction _ (mem_of_member? left_eq) (othersProper _ (mem_of_member? right_eq))
          refine and_congr_right fun names => ⟨?_, ?_⟩
          · rintro each name _ _ ⟨value, left_eq, rfl⟩ ⟨other, right_eq, rfl⟩
            exact (inner_iff left_eq right_eq).mp (each name value other left_eq right_eq)
          · intro each name value other left_eq right_eq
            exact (inner_iff left_eq right_eq).mpr
              (each name _ _ ⟨value, left_eq, rfl⟩ ⟨other, right_eq, rfl⟩)
      | _ => simp [same, counted]

private theorem counted_ne_boolean (value : Json) (b : Bool) : value.counted ≠ .boolean b := by
  cases value <;> simp [counted]

private theorem not_sameValue_boolean {b : Bool} (other : left ≠ .boolean b) :
    ¬ SameValue left (.boolean b) := by
  intro same
  cases same with
  | boolean => exact other rfl
  | number _ right_eq => cases right_eq

private theorem countedInside_of_ne_boolean (other : ∀ b, left ≠ .boolean b) :
    left.countedInside = left.counted := by
  cases left with
  | boolean b => exact absurd rfl (other b)
  | _ => rfl

private theorem equal_eq_same (leftTruth : ∀ b, left ≠ .boolean b)
    (rightTruth : ∀ b, right ≠ .boolean b)
    (leftProper : IsProper left) (rightProper : IsProper right) :
    left.equal right = same left right := by
  have notNan {value : Json} (proper : IsProper value) : value.isNan = false := by
    cases proper with
    | @double x number =>
        cases x with
        | nan => exact absurd rfl number
        | _ => rfl
    | _ => rfl
  unfold equal
  split
  next b _ => exact absurd rfl (leftTruth b)
  next b _ => exact absurd rfl (leftTruth b)
  next b _ => exact absurd rfl (rightTruth b)
  · rw [notNan leftProper, notNan rightProper]
    rfl

/-- Two values are found to be equal when they are the same value with the truth values inside them
counted. -/
theorem equal_iff_sameValue (leftProper : IsProper left) (rightProper : IsProper right) :
    left.equal right = true ↔ SameValue left.countedInside right.countedInside := by
  by_cases leftTruth : ∃ b, left = .boolean b
  · obtain ⟨b, rfl⟩ := leftTruth
    rw [countedInside, sameValue_boolean_iff]
    cases right with
    | boolean c => simpa [equal, countedInside] using eq_comm
    | _ => simp [equal, countedInside, counted]
  · by_cases rightTruth : ∃ c, right = .boolean c
    · obtain ⟨c, rfl⟩ := rightTruth
      rw [countedInside_of_ne_boolean (not_exists.mp leftTruth), countedInside]
      refine iff_of_false ?_ (not_sameValue_boolean (counted_ne_boolean left c))
      cases left <;> simp_all [equal]
    · rw [countedInside_of_ne_boolean (not_exists.mp leftTruth),
        countedInside_of_ne_boolean (not_exists.mp rightTruth),
        equal_eq_same (not_exists.mp leftTruth) (not_exists.mp rightTruth) leftProper rightProper]
      exact same_iff_sameValue leftProper rightProper

/-! ## Truth values that meet numbers -/

private theorem rational?_counted_of_ne_boolean (other : ∀ b, right ≠ .boolean b) :
    right.counted.rational? = right.rational? := by
  cases right with
  | boolean b => exact absurd rfl (other b)
  | _ => rfl

private theorem sameValue_iff_counted_of_rational? {value : ℚ}
    (left_eq : left.rational? = some value)
    (kept : left.counted = left) :
    SameValue left right ↔ SameValue left.counted right.counted ∧ ¬ Clashes left right := by
  rw [kept, sameValue_iff_of_rational? left_eq, sameValue_iff_of_rational? left_eq]
  by_cases rightTruth : ∃ c, right = .boolean c
  · obtain ⟨c, rfl⟩ := rightTruth
    refine iff_of_false (by simp [rational?]) ?_
    rintro ⟨counts, apart⟩
    refine apart (.number c ?_)
    rw [left_eq, ← counts]
    simp [counted, rational?]
  · rw [rational?_counted_of_ne_boolean (not_exists.mp rightTruth), and_iff_left]
    intro clashes
    cases clashes with
    | number c => exact rightTruth ⟨c, rfl⟩
    | _ => cases left_eq

private theorem sameValue_iff_counted_of_boolean {b : Bool} :
    SameValue (.boolean b) right ↔
      SameValue (Json.boolean b).counted right.counted ∧ ¬ Clashes (.boolean b) right := by
  have left_eq : (Json.boolean b).counted.rational? = some (b.toNat : ℚ) := by
    simp [counted, rational?]
  rw [sameValue_boolean_iff, sameValue_iff_of_rational? left_eq]
  by_cases rightTruth : ∃ c, right = .boolean c
  · obtain ⟨c, rfl⟩ := rightTruth
    rw [clashes_iff]
    cases b <;> cases c <;> simp [counted, rational?]
  · rw [rational?_counted_of_ne_boolean (not_exists.mp rightTruth)]
    refine iff_of_false (fun same => rightTruth ⟨b, same⟩) ?_
    rintro ⟨counts, apart⟩
    exact apart (.truth b counts)

private theorem clashes_array_iff {items others : List Json} :
    Clashes (.array items) (.array others) ↔
      ∃ item other, (item, other) ∈ items.zip others ∧ Clashes item other := by
  constructor
  · intro clashes
    cases clashes with
    | item meet inner => exact ⟨_, _, meet, inner⟩
  · rintro ⟨item, other, meet, inner⟩
    exact .item meet inner

private theorem clashes_object_iff {members others : List (CodePoints × Json)} :
    Clashes (.object members) (.object others) ↔ ∃ name value other,
      member? name members = some value ∧ member? name others = some other ∧
        Clashes value other := by
  constructor
  · intro clashes
    cases clashes with
    | member left_eq right_eq inner => exact ⟨_, _, _, left_eq, right_eq, inner⟩
  · rintro ⟨name, value, other, left_eq, right_eq, inner⟩
    exact .member left_eq right_eq inner

/-- Two values are the same exactly when they are so with their truth values counted and no truth
value in one of them meets the number that it counts as. -/
theorem sameValue_iff_counted (proper : IsProper left) :
    SameValue left right ↔ SameValue left.counted right.counted ∧ ¬ Clashes left right := by
  induction proper generalizing right with
  | null =>
      rw [clashes_iff]
      cases right <;> simp [counted, rational?]
  | boolean b => exact sameValue_iff_counted_of_boolean
  | integer n => exact sameValue_iff_counted_of_rational? rfl rfl
  | @double x number =>
      cases x with
      | nan => exact absurd rfl number
      | finite => exact sameValue_iff_counted_of_rational? rfl rfl
      | infinite negative =>
          rw [clashes_iff]
          cases right <;> simp [counted, rational?]
  | string s =>
      rw [clashes_iff]
      cases right <;> simp [counted, rational?]
  | @array items inner induction =>
      rw [counted, countedItems_eq_map, sameValue_array_iff, sameValue_array_iff]
      cases right with
      | array others =>
          simp only [counted, countedItems_eq_map, array.injEq, exists_eq_left',
            List.forall₂_map_left_iff, List.forall₂_map_right_iff, clashes_array_iff]
          rw [List.forall₂_iff_zip, List.forall₂_iff_zip]
          constructor
          · rintro ⟨length_eq, each⟩
            have split {item other : Json} (meet : (item, other) ∈ items.zip others) :=
              (induction item (List.of_mem_zip meet).1).mp (each meet)
            refine ⟨⟨length_eq, fun meet => (split meet).1⟩, ?_⟩
            rintro ⟨item, other, meet, clashes⟩
            exact (split meet).2 clashes
          · rintro ⟨⟨length_eq, each⟩, apart⟩
            refine ⟨length_eq, fun {item other} meet => ?_⟩
            exact (induction item (List.of_mem_zip meet).1).mpr
              ⟨each meet, fun clashes => apart ⟨item, other, meet, clashes⟩⟩
      | _ => simp [counted]
  | @object members distinct inner induction =>
      rw [counted, sameValue_object_iff, sameValue_object_iff]
      cases right with
      | object others =>
          simp only [counted, object.injEq, exists_eq_left', member?_countedMembers,
            Option.isSome_map, Option.map_eq_some_iff, clashes_object_iff]
          constructor
          · rintro ⟨names, each⟩
            have split {name : CodePoints} {value other : Json}
                (left_eq : member? name members = some value)
                (right_eq : member? name others = some other) :=
              (induction _ (mem_of_member? left_eq)).mp (each name value other left_eq right_eq)
            refine ⟨⟨names, ?_⟩, ?_⟩
            · rintro name _ _ ⟨value, left_eq, rfl⟩ ⟨other, right_eq, rfl⟩
              exact (split left_eq right_eq).1
            · rintro ⟨name, value, other, left_eq, right_eq, clashes⟩
              exact (split left_eq right_eq).2 clashes
          · rintro ⟨⟨names, each⟩, apart⟩
            refine ⟨names, fun name value other left_eq right_eq => ?_⟩
            exact (induction _ (mem_of_member? left_eq)).mpr
              ⟨each name _ _ ⟨value, left_eq, rfl⟩ ⟨other, right_eq, rfl⟩,
                fun clashes => apart ⟨name, value, other, left_eq, right_eq, clashes⟩⟩
      | _ => simp [counted]

/-- Two values are the same exactly when they are found to be equal and no truth value in one of
them meets the number that it counts as. -/
theorem sameValue_iff_equal (leftProper : IsProper left) (rightProper : IsProper right) :
    SameValue left right ↔ left.equal right = true ∧ ¬ Clashes left right := by
  rw [equal_iff_sameValue leftProper rightProper]
  -- A truth value itself is not counted, so it meets no number, and has to be told apart here.
  by_cases leftTruth : ∃ b, left = .boolean b
  · obtain ⟨b, rfl⟩ := leftTruth
    rw [countedInside, sameValue_boolean_iff, sameValue_boolean_iff, clashes_iff]
    cases right <;> simp [countedInside, counted, rational?]
  · rw [countedInside_of_ne_boolean (not_exists.mp leftTruth)]
    by_cases rightTruth : ∃ c, right = .boolean c
    · obtain ⟨c, rfl⟩ := rightTruth
      refine iff_of_false (not_sameValue_boolean fun same => leftTruth ⟨c, same⟩) fun both => ?_
      exact not_sameValue_boolean (counted_ne_boolean left c) both.1
    · rw [countedInside_of_ne_boolean (not_exists.mp rightTruth)]
      exact sameValue_iff_counted leftProper

end Counted

end Json
end DiscoveryFiles
