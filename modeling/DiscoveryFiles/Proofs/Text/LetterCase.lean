import DiscoveryFiles.Proofs.Text.Lowercase

/-!
# Case of ASCII letters

A text in which nothing but the case of ASCII letters is changed has its line feeds and its blank
characters in the same places and is the same in lower case.
-/

namespace DiscoveryFiles
namespace Text

/-! ## Characters -/

theorem toNat_toLower {c : Char} (capital : 0x41 ≤ c.toNat ∧ c.toNat ≤ 0x5A) :
    c.toLower.toNat = c.toNat + 32 := by
  rw [Char.toLower_eq_of_isUpper (isUpper_iff.mpr capital), Char.toNat_ofNat,
    if_pos (.inl (by omega))]

/-- Only the capital letters of ASCII have other small letters of ASCII. -/
theorem toLower_cases (c : Char) :
    c.toLower = c ∨ 0x41 ≤ c.toNat ∧ c.toNat ≤ 0x5A ∧ c.toLower.toNat = c.toNat + 32 := by
  by_cases capital : 0x41 ≤ c.toNat ∧ c.toNat ≤ 0x5A
  · exact .inr ⟨capital.1, capital.2, toNat_toLower capital⟩
  · exact .inl (Char.toLower_eq_of_not_isUpper (mt isUpper_iff.mp capital))

/-- What is the same for both forms of each letter is not changed by the case of a character. -/
theorem apply_toNat_toLower {α : Type} (see : Nat → α)
    (same : ∀ n, 0x41 ≤ n → n ≤ 0x5A → see (n + 32) = see n) (c : Char) :
    see c.toLower.toNat = see c.toNat := by
  rcases toLower_cases c with fixed | ⟨least, most, small⟩
  · rw [fixed]
  · rw [small, same c.toNat least most]

private theorem isBlank_toLower (c : Char) : isBlank c.toLower.toNat = isBlank c.toNat :=
  apply_toNat_toLower isBlank (by decide) c

private theorem lowerChar_toLower (c : Char) : lowerChar c.toLower = lowerChar c := by
  rcases toLower_cases c with fixed | ⟨least, most, small⟩
  · rw [fixed]
  · rw [lowerChar_of_lt (by omega), lowerChar_of_lt (by omega),
      Char.toLower_toLower_eq_toLower]

/-- A character that is no letter of ASCII is the small form of itself alone. -/
theorem toLower_eq_iff {c d : Char} (other : d.isAlpha = false) : c.toLower = d ↔ c = d := by
  rcases toLower_cases c with fixed | ⟨least, most, small⟩
  · rw [fixed]
  · have letters : ∀ n, 0x41 ≤ n → n ≤ 0x5A →
        (Char.ofNat n).isAlpha = true ∧ (Char.ofNat (n + 32)).isAlpha = true := by decide +kernel
    obtain ⟨capital, smaller⟩ := letters c.toNat least most
    rw [← small, Char.ofNat_toNat] at smaller
    rw [Char.ofNat_toNat] at capital
    refine iff_of_false ?_ ?_
    · rintro rfl
      exact absurd smaller (Bool.eq_false_iff.mp other)
    · rintro rfl
      exact absurd capital (Bool.eq_false_iff.mp other)

/-! ## Texts -/

/-- The text with the capital letters of ASCII as small ones. -/
def foldCase (text : Text) : Text :=
  text.map Char.toLower

/-- Two texts are the same up to the case of ASCII letters. -/
def AlikeLetters (first second : Text) : Prop :=
  foldCase first = foldCase second

instance (first second : Text) : Decidable (AlikeLetters first second) :=
  inferInstanceAs (Decidable (foldCase first = foldCase second))

@[simp]
theorem foldCase_nil : foldCase [] = [] := rfl

@[simp]
theorem foldCase_cons (c : Char) (rest : Text) :
    foldCase (c :: rest) = c.toLower :: foldCase rest := rfl

theorem lines_foldCase (text : Text) : (foldCase text).lines = text.lines.map foldCase := by
  induction text with
  | nil => rfl
  | cons c rest induction =>
      have feed_iff : c.toLower = '\n' ↔ c = '\n' := toLower_eq_iff (by decide)
      rw [foldCase_cons, lines_cons, lines_cons, induction]
      by_cases feed : c = '\n'
      · rw [if_pos feed, if_pos (feed_iff.mpr feed)]
        rfl
      · rw [if_neg feed, if_neg (feed_iff.not.mpr feed)]
        cases lines rest <;> rfl

private theorem trimStart_foldCase (text : Text) :
    trimStart (foldCase text) = foldCase (trimStart text) := by
  simp [trimStart, foldCase, List.dropWhile_map, Function.comp_def, isBlank_toLower]

private theorem trimEnd_foldCase (text : Text) :
    trimEnd (foldCase text) = foldCase (trimEnd text) := by
  induction text with
  | nil => rfl
  | cons c rest induction =>
      rw [foldCase_cons, trimEnd, trimEnd, induction, isBlank_toLower]
      cases trimEnd rest with
      | nil => cases isBlank c.toNat <;> simp
      | cons d kept => rfl

theorem trim_foldCase (text : Text) : (foldCase text).trim = foldCase text.trim := by
  rw [trim, trim, trimStart_foldCase, trimEnd_foldCase]

/-! ## Lower case -/

private theorem meetsCase_foldCase (text : Text) : meetsCase (foldCase text) = meetsCase text := by
  induction text with
  | nil => rfl
  | cons c rest induction =>
      have passed : inRanges passedRanges c.toLower.toNat = inRanges passedRanges c.toNat :=
        apply_toNat_toLower (inRanges passedRanges) (by decide +kernel) c
      have cased : inRanges casedRanges c.toLower.toNat = inRanges casedRanges c.toNat :=
        apply_toNat_toLower (inRanges casedRanges) (by decide +kernel) c
      rw [foldCase_cons, meetsCase, meetsCase, passed, cased, induction]

private theorem lowerWithin_foldCase (before : Text) (c : Char) (after : Text) :
    lowerWithin (foldCase before) c.toLower (foldCase after) = lowerWithin before c after := by
  have sigma : (c.toLower.toNat == 0x3A3) = (c.toNat == 0x3A3) :=
    apply_toNat_toLower (· == 0x3A3) (by decide) c
  rw [lowerWithin, lowerWithin, sigma, lowerSigma, lowerSigma, meetsCase_foldCase,
    meetsCase_foldCase, lowerChar_toLower]

/-- In lower case, the case of ASCII letters makes no difference, not even to the sigmas between
them. -/
theorem lower_foldCase (text : Text) : lower (foldCase text) = lower text := by
  have behind (before : Text) :
      lowerFrom (foldCase before) (foldCase text) = lowerFrom before text := by
    induction text generalizing before with
    | nil => rfl
    | cons c rest induction =>
        rw [foldCase_cons, lowerFrom, lowerFrom, lowerWithin_foldCase, ← foldCase_cons, induction]
  exact behind []

/-! ## Words without letters -/

section Letterless

variable {word text : Text}

/-- A text without letters of ASCII. -/
def Letterless (word : Text) : Prop :=
  ∀ c ∈ word, c.isAlpha = false

instance (word : Text) : Decidable (Letterless word) :=
  List.decidableBAll (fun c : Char => c.isAlpha = false) word

private theorem prefix_foldCase_iff (letterless : Letterless word) :
    word <+: foldCase text ↔ word <+: text := by
  induction word generalizing text with
  | nil => simp
  | cons d word induction =>
      obtain ⟨first, others⟩ := List.forall_mem_cons.mp letterless
      cases text with
      | nil => rfl
      | cons c rest =>
          rw [foldCase_cons, List.cons_prefix_cons, List.cons_prefix_cons, induction others,
            eq_comm, toLower_eq_iff first, eq_comm]

theorem foldCase_eq_iff (letterless : Letterless word) : foldCase text = word ↔ text = word := by
  induction word generalizing text with
  | nil => simp [foldCase]
  | cons d word induction =>
      obtain ⟨first, others⟩ := List.forall_mem_cons.mp letterless
      cases text with
      | nil => simp
      | cons c rest =>
          rw [foldCase_cons, List.cons.injEq, List.cons.injEq, toLower_eq_iff first,
            induction others]

/-- Whether a text begins with a word without letters does not depend on the case of letters. -/
theorem begins_foldCase {words : String} (letterless : Letterless words.toList) (text : Text) :
    (foldCase text).begins words = text.begins words := by
  rw [Bool.eq_iff_iff, begins_iff, begins_iff, prefix_foldCase_iff letterless]

end Letterless

end Text
end DiscoveryFiles
