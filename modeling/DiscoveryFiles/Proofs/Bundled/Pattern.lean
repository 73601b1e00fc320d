import DiscoveryFiles.Proofs.Pattern.Word

/-!
# The patterns of the bundled schemas

The bundled schemas have patterns for web addresses, dates, versions and mail addresses.  Each is
given here as it is read from its words.
-/

namespace DiscoveryFiles
namespace Bundled

open Pattern

/-- Some words are read as a pattern when what they are read as is the same. -/
theorem parse_eq_of_same {points : CodePoints} {pattern : Pattern}
    (same : (match Pattern.parse points with
      | .ok read => decide (read = pattern)
      | .error _ => false) = true) : Pattern.parse points = .ok pattern := by
  split at same
  next read read_eq => rw [read_eq, of_decide_eq_true same]
  · cases same

/-! ## Web addresses -/

/-- A string starts like a web address. -/
def IsWebAddress (points : CodePoints) : Prop :=
  CodePoints.ofString "http://" <+: points ∨ CodePoints.ofString "https://" <+: points

/-- The pattern of web addresses behind their start. -/
def webStart : Pattern :=
  spelled "http".toList (.sequence (.repeated .greedy (letter 's') 0 (some 1))
    (spelled ":/".toList (letter '/')))

theorem parse_web :
    Pattern.parse (CodePoints.ofString "^https?://") =
      .ok (.sequence (.anchor .start) webStart) := by
  unfold CodePoints.ofString webStart
  repeat rewrite [String.toList_ofList]
  exact parse_eq_of_same (by decide +kernel)

private theorem webStart_hasWord_iff (word : CodePoints) :
    webStart.HasWord word ↔
      word = CodePoints.ofString "http://" ∨ word = CodePoints.ofString "https://" := by
  simp only [webStart, spelled_hasWord_iff, sequence_hasWord_iff, optional_hasWord_iff,
    letter_hasWord_iff]
  simp only [CodePoints.ofString, CodePoints.ofText]
  constructor
  · rintro ⟨_, rfl, _, _, rfl, rfl | rfl, _, rfl, rfl⟩
    · exact .inl (by simp)
    · exact .inr (by simp)
  · rintro (rfl | rfl)
    · exact ⟨_, by simp, [], _, rfl, .inl rfl, _, rfl, rfl⟩
    · exact ⟨_, by simp, _, _, rfl, .inr rfl, _, rfl, rfl⟩

theorem matches_web_iff (points : CodePoints) :
    Matches "^https?://" points ↔ IsWebAddress points := by
  rw [Matches, parse_web]
  simp only [Except.ok.injEq, exists_eq_left']
  rw [stretch_at_start_iff (by decide)]
  simp only [webStart_hasWord_iff, or_and_right, exists_or, exists_eq_left, IsWebAddress]

/-! ## Dates -/

/-- A character is one of the ten digits of ASCII. -/
def IsDigit (point : CodePoint) : Prop :=
  0x30 ≤ point.number ∧ point.number ≤ 0x39

/-- A string starts with four digits, two digits and two digits, with a hyphen between them. -/
def StartsWithDate (points : CodePoints) : Prop :=
  ∃ year month day : CodePoints, year.length = 4 ∧ month.length = 2 ∧ day.length = 2 ∧
    (∀ point ∈ year ++ month ++ day, IsDigit point) ∧
      year ++ .scalar '-' :: month ++ .scalar '-' :: day <+: points

/-- The class of the ten digits. -/
def digitClass : CharClass :=
  ⟨false, .strict, [.range 0x30 0x39]⟩

theorem digitClass_contains_iff {point : CodePoint} :
    digitClass.contains point = true ↔ IsDigit point := by
  simp [digitClass, CharClass.contains, ClassPart.contains, IsDigit]

/-- The pattern of so many digits. -/
def digits (count : Nat) : Pattern :=
  .repeated .greedy (.one digitClass) count (some count)

private theorem digits_hasWord_iff {count : Nat} {word : CodePoints} :
    (digits count).HasWord word ↔ word.length = count ∧ ∀ point ∈ word, IsDigit point := by
  simp only [digits, repeated_one_hasWord_iff, digitClass_contains_iff, Option.some.injEq,
    forall_eq']
  constructor
  · rintro ⟨enough, few, all⟩
    exact ⟨Nat.le_antisymm few enough, all⟩
  · rintro ⟨rfl, all⟩
    exact ⟨Nat.le_refl _, Nat.le_refl _, all⟩

/-- The pattern of dates. -/
def date : Pattern :=
  .sequence (digits 4) (.sequence (letter '-') (.sequence (digits 2) (.sequence (letter '-')
    (digits 2))))

theorem parse_date :
    Pattern.parse (CodePoints.ofString "^[0-9]\x7b4\x7d-[0-9]\x7b2\x7d-[0-9]\x7b2\x7d") =
      .ok (.sequence (.anchor .start) date) := by
  unfold CodePoints.ofString
  repeat rewrite [String.toList_ofList]
  exact parse_eq_of_same (by decide +kernel)

theorem matches_date_iff (points : CodePoints) :
    Matches "^[0-9]\x7b4\x7d-[0-9]\x7b2\x7d-[0-9]\x7b2\x7d" points ↔ StartsWithDate points := by
  rw [Matches, parse_date]
  simp only [Except.ok.injEq, exists_eq_left']
  rw [stretch_at_start_iff (by decide)]
  simp only [date, sequence_hasWord_iff, digits_hasWord_iff, letter_hasWord_iff]
  constructor
  · rintro ⟨_, ⟨year, _, rfl, ⟨year_length, year_digits⟩, _, _, rfl, rfl, month, _, rfl,
      ⟨month_length, month_digits⟩, _, day, rfl, rfl, day_length, day_digits⟩, stands⟩
    refine ⟨year, month, day, year_length, month_length, day_length, ?_, ?_⟩
    · simp only [List.forall_mem_append]
      exact ⟨⟨year_digits, month_digits⟩, day_digits⟩
    · simpa using stands
  · rintro ⟨year, month, day, year_length, month_length, day_length, all, stands⟩
    simp only [List.forall_mem_append] at all
    obtain ⟨⟨year_digits, month_digits⟩, day_digits⟩ := all
    refine ⟨_, ⟨year, _, rfl, ⟨year_length, year_digits⟩, _, _, rfl, rfl, month, _, rfl,
      ⟨month_length, month_digits⟩, _, day, rfl, rfl, day_length, day_digits⟩, ?_⟩
    simpa using stands

/-! ## Mail addresses -/

/-- The words of the pattern for mail addresses. -/
def mailPattern : String :=
  "^[^@\\s]+@[^@\\s]+$"

/-- The pattern for mail addresses. -/
def mail : Pattern :=
  let inside := Pattern.repeated .greedy
    (.one ⟨true, .strict, [.range 0x40 0x40, .having .blank]⟩) 1 none
  .sequence (.anchor .start) (.sequence inside (.sequence (Pattern.letter '@') (.sequence inside
    (.anchor .lastLineEnd))))

theorem parse_mail : Pattern.parse (CodePoints.ofString mailPattern) = .ok mail := by
  unfold CodePoints.ofString mailPattern
  rewrite [String.toList_ofList]
  exact parse_eq_of_same (by decide +kernel)

end Bundled
end DiscoveryFiles
