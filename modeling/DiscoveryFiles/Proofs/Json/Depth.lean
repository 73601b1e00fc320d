import DiscoveryFiles.Proofs.Json.Limit

/-!
# The depth of what is read

The reader allows itself a number of containers around a value, and no more brackets and braces are
ever open in what it reads.  So a text of the grammar, but for an integer literal with too many
digits, is refused for its depth exactly if it nests deeper than the reader allows.
-/

namespace DiscoveryFiles
namespace Json

/-! ## Open brackets and braces -/

/-- From a place on, at most so many brackets and braces are open at every place of a text. -/
def Scan.StaysWithin (bound : Nat) (scan : Scan) (text : Text) : Prop :=
  ∀ front, front <+: text → (scan.over front).depth ≤ bound

section StaysWithin

variable {bound : Nat} {scan : Scan}

private theorem staysWithin_nil_iff : scan.StaysWithin bound [] ↔ scan.depth ≤ bound := by
  simp [Scan.StaysWithin, over_nil]

private theorem staysWithin_cons_iff {c : Char} {text : Text} :
    scan.StaysWithin bound (c :: text) ↔
      scan.depth ≤ bound ∧ (scan.step c).StaysWithin bound text := by
  constructor
  · intro every
    exact ⟨every [] List.nil_prefix,
      fun front before => every (c :: front) (List.cons_prefix_cons.mpr ⟨rfl, before⟩)⟩
  · rintro ⟨here, later⟩ front before
    obtain rfl | ⟨front, rfl, before⟩ := List.prefix_cons_iff.mp before
    · exact here
    · exact later front (List.cons_prefix_cons.mp before).2

private theorem staysWithin_append_iff {text more : Text} :
    scan.StaysWithin bound (text ++ more) ↔
      scan.StaysWithin bound text ∧ (scan.over text).StaysWithin bound more := by
  induction text generalizing scan with
  | nil =>
      rw [List.nil_append, over_nil, staysWithin_nil_iff, iff_and_self]
      exact fun every => every [] List.nil_prefix
  | cons c text induction =>
      rw [List.cons_append, staysWithin_cons_iff, induction, staysWithin_cons_iff, over_cons,
        and_assoc]

end StaysWithin

/-! ## Texts that nest within a depth -/

/-- A text opens and closes the same, and opens at most so many brackets and braces inside each
other. -/
structure NestsWithin (depth : Nat) (text : Text) : Prop where
  /-- It opens and closes the same. -/
  balanced : Balanced text
  /-- At no place more are open, besides those around the text. -/
  shallow : ∀ levels, Scan.StaysWithin (levels + depth) ⟨.outside, levels⟩ text

variable {depth bound : Nat} {text more : Text}

theorem NestsWithin.append (first : NestsWithin depth text) (second : NestsWithin depth more) :
    NestsWithin depth (text ++ more) := by
  refine ⟨first.balanced.append second.balanced, fun levels => ?_⟩
  rw [staysWithin_append_iff, first.balanced]
  exact ⟨first.shallow levels, second.shallow levels⟩

private theorem nestsWithin_of_plain (plain : ∀ c ∈ text, IsPlain c) : NestsWithin depth text := by
  refine ⟨balanced_of_plain plain, fun levels => ?_⟩
  induction text with
  | nil => exact staysWithin_nil_iff.mpr (Nat.le_add_right levels depth)
  | cons c text induction =>
      obtain ⟨first, others⟩ := List.forall_mem_cons.mp plain
      have unmoved : Scan.step ⟨.outside, levels⟩ c = ⟨.outside, levels⟩ :=
        (balanced_nil.cons first) levels
      rw [staysWithin_cons_iff, unmoved]
      exact ⟨Nat.le_add_right levels depth, induction others⟩

theorem NestsWithin.cons {c : Char} (plain : IsPlain c) (rest : NestsWithin depth text) :
    NestsWithin depth (c :: text) :=
  (nestsWithin_of_plain (by simpa using plain) : NestsWithin depth [c]).append rest

private theorem Blanks.nestsWithin (blank : Blanks text) : NestsWithin depth text :=
  nestsWithin_of_plain blank.isPlain

/-- A bracket or brace in front and one behind add one level. -/
theorem NestsWithin.enclosed {opening closing : Char}
    (opens : opening = '[' ∨ opening = '\x7b') (closes : closing = ']' ∨ closing = '\x7d')
    (inside : NestsWithin depth text) :
    NestsWithin (depth + 1) (opening :: (text ++ [closing])) := by
  have into (levels : Nat) :
      Scan.step ⟨.outside, levels⟩ opening = ⟨.outside, levels + 1⟩ := by
    obtain rfl | rfl := opens <;> rfl
  have out (levels : Nat) :
      Scan.step ⟨.outside, levels + 1⟩ closing = ⟨.outside, levels⟩ := by
    obtain rfl | rfl := closes <;> rfl
  refine ⟨fun levels => ?_, fun levels => ?_⟩
  · rw [over_cons, into, over_append, inside.balanced, over_cons, out, over_nil]
  · have shallow := inside.shallow (levels + 1)
    rw [Nat.succ_add_eq_add_succ] at shallow
    rw [staysWithin_cons_iff, into, staysWithin_append_iff, inside.balanced, staysWithin_cons_iff,
      out, staysWithin_nil_iff]
    exact ⟨by simp, shallow, by simp, by simp⟩

/-! ## Strings -/

private theorem UnitText.staysWithin {unit : CodePoint} (written : UnitText text unit)
    {levels : Nat}
    (within_bound : levels ≤ bound) : Scan.StaysWithin bound ⟨.inside, levels⟩ text := by
  cases written with
  | plain shown unmarked =>
      simp [staysWithin_cons_iff, staysWithin_nil_iff, Scan.step, unmarked, within_bound]
  | short => simp [staysWithin_cons_iff, staysWithin_nil_iff, Scan.step, within_bound]
  | numbered first second third fourth =>
      simp [staysWithin_cons_iff, staysWithin_nil_iff, Scan.step, first.ne, second.ne, third.ne,
        fourth.ne, within_bound]

private theorem UnitsText.staysWithin {units : CodePoints} (written : UnitsText text units)
    {levels : Nat}
    (within_bound : levels ≤ bound) : Scan.StaysWithin bound ⟨.inside, levels⟩ text := by
  induction written with
  | nil => exact staysWithin_nil_iff.mpr within_bound
  | cons first _ induction =>
      rw [staysWithin_append_iff, first.over]
      exact ⟨first.staysWithin within_bound, induction⟩

private theorem StringText.nestsWithin {points : CodePoints} (written : StringText text points) :
    NestsWithin depth text := by
  refine ⟨written.balanced, fun levels => ?_⟩
  obtain ⟨inside, -⟩ := written
  have within_bound : levels ≤ levels + depth := Nat.le_add_right levels depth
  have into : Scan.step ⟨.outside, levels⟩ '"' = ⟨.inside, levels⟩ := rfl
  have out : Scan.step ⟨.inside, levels⟩ '"' = ⟨.outside, levels⟩ := rfl
  rw [staysWithin_cons_iff, into, staysWithin_append_iff, inside.over, staysWithin_cons_iff, out,
    staysWithin_nil_iff]
  exact ⟨within_bound, inside.staysWithin within_bound, within_bound, within_bound⟩

/-! ## The depth is kept to -/

namespace Parser

/-- Whether what the readers with some fuel take nests within the depth that they are given. -/
structure KeepsDepth (fuel : Nat) : Prop where
  /-- What is taken as a value. -/
  value : ∀ {depth text value rest}, Parser.value fuel depth text = .ok (value, rest) →
    ∃ used, NestsWithin depth used ∧ text = used ++ rest
  /-- What is taken as items, up to a closing bracket. -/
  items : ∀ {depth text items rest}, Parser.items fuel depth text = .ok (items, rest) →
    ∃ used, NestsWithin depth used ∧ text = used ++ ']' :: rest
  /-- What is taken as members, up to a closing brace. -/
  members : ∀ {depth text entries rest}, Parser.members fuel depth text = .ok (entries, rest) →
    ∃ used, NestsWithin depth used ∧ text = used ++ '\x7d' :: rest

section Step

variable {fuel : Nat} (below : KeepsDepth fuel) {rest : Text}

include below

private theorem exists_value_nestsWithin {value : Json}
    (taken : TakesValue fuel depth text value rest) :
    ∃ used, NestsWithin depth used ∧ text = used ++ rest := by
  cases taken with
  | string quoted => exact ⟨_, quoted.nestsWithin, rfl⟩
  | emptyArray blank =>
      exact ⟨_, blank.nestsWithin.enclosed (.inl rfl) (.inl rfl), by simp⟩
  | array blank inside =>
      obtain ⟨used, shallow, rfl⟩ := below.items inside
      have inner := blank.nestsWithin.append shallow
      exact ⟨_, inner.enclosed (.inl rfl) (.inl rfl), by simp⟩
  | emptyObject blank =>
      exact ⟨_, blank.nestsWithin.enclosed (.inr rfl) (.inr rfl), by simp⟩
  | object blank inside =>
      obtain ⟨used, shallow, rfl⟩ := below.members inside
      have inner := blank.nestsWithin.append shallow
      exact ⟨_, inner.enclosed (.inr rfl) (.inr rfl), by simp⟩
  | atom written =>
      obtain constant | number := written
      · exact ⟨_, nestsWithin_of_plain constant.isPlain, rfl⟩
      · exact ⟨_, nestsWithin_of_plain number.isPlain, rfl⟩

private theorem exists_items_nestsWithin {items : List Json}
    (taken : TakesItems fuel depth text items rest) :
    ∃ used, NestsWithin depth used ∧ text = used ++ ']' :: rest := by
  cases taken with
  | one inside blank =>
      obtain ⟨used, shallow, rfl⟩ := below.value inside
      exact ⟨_, shallow.append blank.nestsWithin, by simp⟩
  | more inside blank spaced further =>
      obtain ⟨used, shallow, rfl⟩ := below.value inside
      obtain ⟨others, following, rfl⟩ := below.items further
      have behind := (spaced.nestsWithin.append following).cons (c := ',') (by decide)
      exact ⟨_, (shallow.append blank.nestsWithin).append behind, by simp⟩

omit below in
private theorem nestsWithin_member {key padding front used blanks : Text} {name : CodePoints}
    (quoted : StringText key name) (padded : Blanks padding) (before : Blanks front)
    (shallow : NestsWithin depth used) (blank : Blanks blanks) :
    NestsWithin depth (key ++ (padding ++ ':' :: (front ++ (used ++ blanks)))) := by
  have element := before.nestsWithin.append (shallow.append blank.nestsWithin)
  exact quoted.nestsWithin.append (padded.nestsWithin.append (element.cons (by decide)))

private theorem exists_members_nestsWithin {entries : List (CodePoints × Json)}
    (taken : TakesMembers fuel depth text entries rest) :
    ∃ used, NestsWithin depth used ∧ text = used ++ '\x7d' :: rest := by
  cases taken with
  | one quoted padded before inside blank =>
      obtain ⟨used, shallow, rfl⟩ := below.value inside
      exact ⟨_, nestsWithin_member quoted padded before shallow blank, by simp⟩
  | more quoted padded before inside blank spaced further =>
      obtain ⟨used, shallow, rfl⟩ := below.value inside
      obtain ⟨others, following, rfl⟩ := below.members further
      have member := nestsWithin_member quoted padded before shallow blank
      have behind := (spaced.nestsWithin.append following).cons (c := ',') (by decide)
      exact ⟨_, member.append behind, by simp⟩

end Step

private theorem keepsDepth (fuel : Nat) : KeepsDepth fuel := by
  induction fuel with
  | zero =>
      constructor
      all_goals
        intro depth text result rest taken
        simp [Parser.value, Parser.items, Parser.members] at taken
  | succ fuel below =>
      exact ⟨fun taken => exists_value_nestsWithin below (takesValue_of_value taken),
        fun taken => exists_items_nestsWithin below (takesItems_of_items taken),
        fun taken => exists_members_nestsWithin below (takesMembers_of_members taken)⟩

private theorem nestsWithin_of_document {content : Text} {value : Json}
    (read : document content = .ok value) : NestsWithin depthLimit content := by
  rw [document] at read
  split at read
  · cases read
  · split at read
    · cases read
    next behind value_eq =>
      split at read
      next ended =>
        obtain ⟨used, inside, used_eq⟩ := (keepsDepth _).value value_eq
        obtain ⟨front, before, content_eq⟩ := exists_blanks content
        obtain ⟨back, blank, behind_eq⟩ := exists_blanks behind
        rw [ended, List.append_nil] at behind_eq
        rw [content_eq, used_eq, behind_eq]
        exact before.nestsWithin.append (inside.append blank.nestsWithin)
      · cases read

end Parser

/-! ## What is refused for its depth -/

/-- A text is refused for its depth. -/
def IsTooDeep (content : Text) : Prop :=
  ∃ container, parse content = .error (.tooDeep container)

theorem isTooDeep_iff {content : Text} :
    IsTooDeep content ↔ ∃ container, Parser.document content = .error (.tooDeep container) := by
  rw [IsTooDeep, parse]
  cases Parser.document content with
  | ok value => simp [Except.mapError]
  | error failure => cases failure <;> simp [Except.mapError, Parser.Failure.report]

private theorem NestsWithin.nestsBelow (within : NestsWithin depth text) :
    NestsBelow (depth + 1) text := by
  intro front before
  have shallow := within.shallow 0 front before
  rw [Nat.zero_add] at shallow
  exact Nat.lt_succ_of_le shallow

/-- What is refused for its depth nests deeper than the reader allows. -/
theorem IsTooDeep.not_nestsBelow {content : Text} (deep : IsTooDeep content) :
    ¬NestsBelow (depthLimit + 1) content := by
  obtain ⟨container, failed⟩ := isTooDeep_iff.mp deep
  intro shallow
  cases Parser.stops_of_document failed trivial with
  | deep shape opens scanned => exact not_nestsBelow_of_opening shape opens scanned shallow

/-- A text of the grammar is refused for its depth exactly if it nests deeper than the reader
allows, as long as it has no integer literal that is too long. -/
theorem DocumentText.isTooDeep_iff {content : Text} {value : Json}
    (written : DocumentText content value) (short : HasShortIntegers digitLimit content) :
    IsTooDeep content ↔ ¬NestsBelow (depthLimit + 1) content := by
  refine ⟨IsTooDeep.not_nestsBelow, fun deep => ?_⟩
  rcases Parser.document_of_documentText written with read | ⟨failure, failed, limit⟩
  · exact absurd (Parser.nestsWithin_of_document read).nestsBelow deep
  · cases Parser.stops_of_document failed limit with
    | deep => exact Json.isTooDeep_iff.mpr ⟨_, failed⟩
    | long literal many => exact absurd (short _ literal) (Nat.not_le.mpr many)

/-! ## Nested arrays -/

theorem ValueText.element {value : Json} (written : ValueText text value) :
    ElementText text value := by
  simpa using ElementText.padded blanks_nil written blanks_nil

end Json
end DiscoveryFiles
