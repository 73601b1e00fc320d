import DiscoveryFiles.Proofs.Check.Sections

/-!
# Lines under their nearest header

The scan for the sections with a name remembers no more than whether it is inside one.  This is the
case just if the nearest header before the next line has the name, so that the lines that are read
are those that are no headers and have such a header before them.
-/

namespace DiscoveryFiles
namespace Check

open Text

/-! ## The header before a place -/

/-- The nearest header before a place. -/
structure IsNearestHeader (lines : List Text) (opening : Fin lines.length) (place : Nat) :
    Prop where
  /-- It stands before the place. -/
  before : opening < place
  /-- It is a header. -/
  opens : isHeader lines[opening].trim = true
  /-- No line between is a header. -/
  plain : ∀ other : Fin lines.length, opening < other → other < place →
    isHeader lines[other].trim = false

/-- The nearest header before a place has a name. -/
def IsUnder (name : String) (lines : List Text) (place : Nat) : Prop :=
  ∃ opening, IsNearestHeader lines opening place ∧ normal lines[opening] = header name

/-- A line belongs to the sections with a name: it is no header, and the nearest header before it
has the name. -/
def Belongs (name : String) (lines : List Text) (place : Fin lines.length) : Prop :=
  isHeader lines[place].trim = false ∧ IsUnder name lines place

section Decidable

variable (name : String) (lines : List Text)

instance (opening : Fin lines.length) (place : Nat) :
    Decidable (IsNearestHeader lines opening place) :=
  decidable_of_iff
    (opening < place ∧ isHeader lines[opening].trim = true ∧
      ∀ other : Fin lines.length, opening < other → other < place →
        isHeader lines[other].trim = false)
    ⟨fun ⟨before, opens, plain⟩ => ⟨before, opens, plain⟩,
      fun nearest => ⟨nearest.before, nearest.opens, nearest.plain⟩⟩

instance (place : Nat) : Decidable (IsUnder name lines place) :=
  inferInstanceAs (Decidable (∃ _, _))

instance (place : Fin lines.length) : Decidable (Belongs name lines place) :=
  inferInstanceAs (Decidable (_ ∧ _))

end Decidable

/-! ## The course of the scan -/

variable {name : String} {lines : List Text}

/-- Before the first line there is no header. -/
theorem not_isUnder_zero : ¬ IsUnder name lines 0 := by
  rintro ⟨opening, nearest, -⟩
  exact absurd nearest.before (Nat.not_lt_zero _)

section Step

variable {opening place : Fin lines.length}

/-- Right behind a header, this header is the nearest one. -/
theorem isNearestHeader_succ_of_header (opens : isHeader lines[place].trim = true) :
    IsNearestHeader lines opening (place + 1) ↔ opening = place := by
  constructor
  · intro nearest
    by_contra apart
    have before : opening < place := by
      have := nearest.before
      omega
    have closed := nearest.plain place before place.val.lt_succ_self
    rw [opens] at closed
    cases closed
  · rintro rfl
    exact ⟨Nat.lt_succ_self _, opens, fun other after before => by omega⟩

/-- A line that is no header does not change which header is the nearest one. -/
theorem isNearestHeader_succ_of_plain (closed : isHeader lines[place].trim = false) :
    IsNearestHeader lines opening (place + 1) ↔ IsNearestHeader lines opening place := by
  constructor
  · rintro ⟨before, opens, plain⟩
    have apart : opening ≠ place := by
      rintro rfl
      rw [opens] at closed
      cases closed
    exact ⟨by omega, opens, fun other after before => plain other after (by omega)⟩
  · rintro ⟨before, opens, plain⟩
    refine ⟨by omega, opens, fun other after before => ?_⟩
    rcases eq_or_ne other place with rfl | apart
    · exact closed
    · exact plain other after (by omega)

/-- The place behind a line is under a name if the line is a header with the name or belongs to a
section with it. -/
theorem isUnder_succ_iff (place : Fin lines.length) :
    IsUnder name lines (place + 1) ↔
      normal lines[place] = header name ∨ Belongs name lines place := by
  rw [IsUnder, Belongs]
  cases opens : isHeader lines[place].trim with
  | true => simp [isNearestHeader_succ_of_header opens]
  | false =>
      have unnamed : normal lines[place] ≠ header name := normal_ne_header opens name
      rw [or_iff_right unnamed, and_iff_right rfl, IsUnder]
      simp only [isNearestHeader_succ_of_plain opens]

end Step

/-! ## The scan -/

/-- What the scan does at one line.  Inside a section with the name it reads a line that is no
header.  It goes on inside such a section if the line is the header of one or has been read. -/
theorem sectionLinesFrom_cons (inside : Bool) (line : Text) (rest : List Text) :
    sectionLinesFrom name inside (line :: rest) =
      (if !isHeader line.trim && inside then [line] else []) ++
        sectionLinesFrom name
          (decide (normal line = header name) || !isHeader line.trim && inside) rest := by
  have bracketed : isHeader (normal line) = isHeader line.trim := isHeader_lower line.trim
  rw [sectionLinesFrom, bracketed]
  cases opens : isHeader line.trim with
  | true => split <;> simp [*]
  | false => cases inside <;> simp [normal_ne_header opens name]

/-- From any place on, the scan reads the lines that belong to the sections with the name, provided
that it starts inside a section with the name just if the place is under the name. -/
theorem sectionLinesFrom_drop {place : Nat} {inside : Bool}
    (known : inside = true ↔ IsUnder name lines place) :
    sectionLinesFrom name inside (lines.drop place) =
      (((List.finRange lines.length).drop place).filter fun place =>
        Belongs name lines place).map lines.get := by
  -- What the scan hands on at a line tells whether the next place is under the name.
  induction rest_eq : lines.drop place generalizing place inside with
  | nil =>
      have past : (List.finRange lines.length).drop place = [] := by simpa using rest_eq
      rw [past]
      rfl
  | cons line rest induction =>
      have here : place < lines.length := by
        by_contra past
        rw [List.drop_eq_nil_of_le (by omega)] at rest_eq
        cases rest_eq
      have places_eq : (List.finRange lines.length).drop place =
          ⟨place, here⟩ :: (List.finRange lines.length).drop (place + 1) := by
        rw [List.drop_eq_getElem_cons (by simpa using here), List.getElem_finRange]
        rfl
      have rest_eq := (List.drop_eq_getElem_cons here).symm.trans rest_eq
      obtain ⟨rfl, rfl⟩ := List.cons_eq_cons.mp rest_eq
      have belongs_iff : Belongs name lines ⟨place, here⟩ ↔
          (!isHeader lines[place].trim && inside) = true := by
        simp [Belongs, known]
      have next_known : (decide (normal lines[place] = header name) ||
          !isHeader lines[place].trim && inside) = true ↔ IsUnder name lines (place + 1) := by
        rw [Bool.or_eq_true, ← belongs_iff, decide_eq_true_iff]
        exact (isUnder_succ_iff ⟨place, here⟩).symm
      rw [sectionLinesFrom_cons, induction next_known rfl, places_eq, List.filter_cons]
      simp only [belongs_iff, decide_eq_true_eq]
      split <;> rfl

/-- The lines that are read under a name are, in their order, all those that are no headers and
whose nearest header before them has the name.  Where no header has the name, no line is read. -/
theorem sectionLines_eq_map_belongs (name : String) (lines : List Text) :
    sectionLines name lines =
        ((List.finRange lines.length).filter fun place => Belongs name lines place).map lines.get ∧
      (hasSection name lines = false → sectionLines name lines = []) := by
  have lines_eq : sectionLines name lines =
      ((List.finRange lines.length).filter fun place => Belongs name lines place).map
        lines.get := by
    have outside : false = true ↔ IsUnder name lines 0 :=
      iff_of_false Bool.false_ne_true not_isUnder_zero
    exact sectionLinesFrom_drop outside
  refine ⟨lines_eq, fun unnamed => ?_⟩
  rw [lines_eq, List.map_eq_nil_iff, List.filter_eq_nil_iff]
  intro place _ belongs
  obtain ⟨-, opening, -, named⟩ := of_decide_eq_true belongs
  rw [hasSection, List.any_eq_false] at unnamed
  exact unnamed lines[opening] (List.getElem_mem _) (beq_iff_eq.mpr named)

/-- Lines with headers of one name that are the first line, repeated, next to each other and behind
another header, with lines that only look like headers, and with a header at the end. -/
def crowdedLines : List Text :=
  [" [Identity]\r".toList, "name: x".toList, "[IDENTITY]".toList, "[identity".toList,
    "[see [1]]".toList, "- lost".toList, "[identity]".toList, "[identity]".toList, [],
    "url: [y]".toList, "[rules]".toList]

/-- Among these lines four belong to sections of one name, and none to sections that there are
not. -/
theorem sectionLines_of_crowdedLines :
    hasSection "permissions" crowdedLines = false ∧
      sectionLines "permissions" crowdedLines = [] ∧
      sectionLines "identity" crowdedLines =
        ["name: x".toList, "[identity".toList, [], "url: [y]".toList] := by
  have unnamed : hasSection "permissions" crowdedLines = false := by decide +kernel
  have belonging : ((List.finRange crowdedLines.length).filter fun place =>
      Belongs "identity" crowdedLines place).map crowdedLines.get =
        ["name: x".toList, "[identity".toList, [], "url: [y]".toList] := by
    decide +kernel
  refine ⟨unnamed, (sectionLines_eq_map_belongs "permissions" crowdedLines).2 unnamed, ?_⟩
  exact (sectionLines_eq_map_belongs "identity" crowdedLines).1.trans belonging

end Check
end DiscoveryFiles
