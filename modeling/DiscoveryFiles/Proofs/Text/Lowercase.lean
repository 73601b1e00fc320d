import DiscoveryFiles.Proofs.Text.Lines
import DiscoveryFiles.Proofs.Text.Part
import DiscoveryFiles.Text.Lowercase
import Mathlib

/-!
# Words in lower case

The small form of a sigma depends on the letters around it.  For words without sigmas this does not
matter, so that they can be looked for as if each character were lower-cased by itself.  For words
of ASCII without a small k it does not matter either which characters have case outside ASCII.
-/

namespace DiscoveryFiles
namespace Text

/-! ## Sigmas -/

/-- The small sigma at the end of a word. -/
def finalSigma : Char := Char.ofNat 0x3C2

/-- The small sigma inside a word. -/
def medialSigma : Char := Char.ofNat 0x3C3

/-- A text without small sigmas. -/
def SigmaFree (word : Text) : Prop :=
  ∀ c ∈ word, c ≠ finalSigma ∧ c ≠ medialSigma

instance (word : Text) : Decidable (SigmaFree word) :=
  List.decidableBAll (fun c => c ≠ finalSigma ∧ c ≠ medialSigma) word

/-- The character itself, but the medial sigma for the final one. -/
def medial (c : Char) : Char :=
  if c = finalSigma then medialSigma else c

/-- The text with each character in lower case by itself, so that all sigmas are medial. -/
def lowerEach (text : Text) : Text :=
  text.flatMap lowerChar

@[simp]
theorem lowerEach_nil : lowerEach [] = [] := rfl

@[simp]
theorem lowerEach_append (first second : Text) :
    lowerEach (first ++ second) = lowerEach first ++ lowerEach second :=
  List.flatMap_append

@[simp]
theorem lowerEach_cons (c : Char) (rest : Text) :
    lowerEach (c :: rest) = lowerChar c ++ lowerEach rest :=
  List.flatMap_cons

private theorem map_medial_lowerWithin (before : Text) (c : Char) (after : Text) :
    (lowerWithin before c after).map medial = (lowerChar c).map medial := by
  rw [lowerWithin]
  split
  next capital =>
    obtain rfl : c = Char.ofNat 0x3A3 := by
      rw [← Char.ofNat_toNat c, beq_iff_eq.mp capital]
    rw [lowerSigma]
    split <;> decide
  · rfl

/-- Up to the forms of sigmas, each character is lower-cased by itself. -/
theorem map_medial_lower (text : Text) :
    (lower text).map medial = (lowerEach text).map medial := by
  have behind (before : Text) :
      (lowerFrom before text).map medial = (lowerEach text).map medial := by
    induction text generalizing before with
    | nil => rfl
    | cons c rest induction =>
        rw [lowerFrom, lowerEach_cons, List.map_append, List.map_append, map_medial_lowerWithin,
          induction]
  exact behind []

section SigmaFree

variable {word text part : Text}

private theorem map_medial_eq_iff (free : SigmaFree word) :
    part.map medial = word ↔ part = word := by
  induction part generalizing word with
  | nil => rw [List.map_nil]
  | cons c part induction =>
      cases word with
      | nil => simp
      | cons d word =>
          obtain ⟨d_free, word_free⟩ := List.forall_mem_cons.mp free
          have char_iff : medial c = d ↔ c = d := by
            rw [medial]
            split
            next final =>
              exact iff_of_false (Ne.symm d_free.2) (final ▸ Ne.symm d_free.1)
            · rfl
          rw [List.map_cons, List.cons.injEq, List.cons.injEq, char_iff, induction word_free]

/-- A word without sigmas stands in a text where it stands in the text with medial sigmas. -/
theorem exists_of_map_medial_eq (free : SigmaFree word) (before after : Text)
    (found : text.map medial = before ++ word ++ after) :
    ∃ front back, text = front ++ word ++ back ∧ front.map medial = before ∧
      back.map medial = after := by
  obtain ⟨rest, back, rfl, rest_eq, back_eq⟩ := List.map_eq_append_iff.mp found
  obtain ⟨front, middle, rfl, front_eq, middle_eq⟩ := List.map_eq_append_iff.mp rest_eq
  exact ⟨front, back, by rw [(map_medial_eq_iff free).mp middle_eq], front_eq, back_eq⟩

private theorem prefix_map_medial_iff (free : SigmaFree word) :
    word <+: text.map medial ↔ word <+: text := by
  constructor
  · rintro ⟨after, found⟩
    obtain ⟨front, back, rfl, front_eq, -⟩ :=
      exists_of_map_medial_eq free [] after found.symm
    rw [List.map_eq_nil_iff.mp front_eq]
    exact List.prefix_append word back
  · rintro ⟨after, rfl⟩
    rw [List.map_append, (map_medial_eq_iff free).mpr rfl]
    exact List.prefix_append word _

private theorem suffix_map_medial_iff (free : SigmaFree word) :
    word <:+ text.map medial ↔ word <:+ text := by
  constructor
  · rintro ⟨before, found⟩
    obtain ⟨front, back, rfl, -, back_eq⟩ :=
      exists_of_map_medial_eq free before [] (found.symm.trans (List.append_nil _).symm)
    rw [List.map_eq_nil_iff.mp back_eq, List.append_nil]
    exact List.suffix_append front word
  · rintro ⟨before, rfl⟩
    rw [List.map_append, (map_medial_eq_iff free).mpr rfl]
    exact List.suffix_append _ word

private theorem infix_map_medial_iff (free : SigmaFree word) :
    word <:+: text.map medial ↔ word <:+: text := by
  constructor
  · rintro ⟨before, after, found⟩
    obtain ⟨front, back, rfl, -, -⟩ := exists_of_map_medial_eq free before after found.symm
    exact List.infix_append front word back
  · rintro ⟨before, after, rfl⟩
    rw [List.map_append, List.map_append, (map_medial_eq_iff free).mpr rfl]
    exact List.infix_append _ word _

theorem prefix_lower_iff (free : SigmaFree word) :
    word <+: lower text ↔ word <+: lowerEach text := by
  rw [← prefix_map_medial_iff free, map_medial_lower, prefix_map_medial_iff free]

private theorem suffix_lower_iff (free : SigmaFree word) :
    word <:+ lower text ↔ word <:+ lowerEach text := by
  rw [← suffix_map_medial_iff free, map_medial_lower, suffix_map_medial_iff free]

private theorem infix_lower_iff (free : SigmaFree word) :
    word <:+: lower text ↔ word <:+: lowerEach text := by
  rw [← infix_map_medial_iff free, map_medial_lower, infix_map_medial_iff free]

end SigmaFree

/-! ## Characters without case -/

private theorem shiftCase_eq_self {shifts : List CaseShift} {c : Char}
    (uncovered : ∀ shift ∈ shifts, shift.covers c.toNat = false) : shiftCase shifts c = c := by
  have nothing : shifts.find? (·.covers c.toNat) = none := by simpa using uncovered
  rw [shiftCase, nothing]

/-- A character that no run covers, other than the dotted I, is its own lower case. -/
theorem lowerChar_eq_self {c : Char} (undotted : c.toNat ≠ 0x130)
    (uncovered : ∀ shift ∈ lowercaseShifts, shift.covers c.toNat = false) : lowerChar c = [c] := by
  rw [lowerChar, beq_eq_false_iff_ne.mpr undotted, shiftCase_eq_self uncovered]
  rfl

/-- Blank characters have no case. -/
theorem lowerChar_of_isBlank {c : Char} (blank : isBlank c.toNat = true) : lowerChar c = [c] := by
  have apart : ∀ range ∈ blankRanges, ∀ shift ∈ lowercaseShifts,
      range.2 < shift.first ∨ shift.last < range.1 := by decide +kernel
  have no_dotted : ∀ range ∈ blankRanges, range.2 < 0x130 ∨ 0x130 < range.1 := by decide
  obtain ⟨range, member, least, most⟩ := inRanges_iff.mp blank
  have undotted : c.toNat ≠ 0x130 := by
    have := no_dotted range member
    omega
  have uncovered : ∀ shift ∈ lowercaseShifts, shift.covers c.toNat = false := by
    intro shift shifted
    have := apart range member shift shifted
    simp only [CaseShift.covers, Bool.and_eq_false_imp, Bool.and_eq_true, decide_eq_true_eq]
    omega
  exact lowerChar_eq_self undotted uncovered

/-- Where a character has a small letter, it is none of the marks that precede the small letters of
ASCII. -/
theorem shiftCase_lowercaseShifts_cases (c : Char) :
    shiftCase lowercaseShifts c = c ∨ (shiftCase lowercaseShifts c).toNat = 0 ∨
      0x61 ≤ (shiftCase lowercaseShifts c).toNat := by
  have high : ∀ shift ∈ lowercaseShifts, 0x61 ≤ (shift.first : Int) + shift.distance := by
    decide +kernel
  rw [shiftCase]
  split
  next shift found =>
    right
    have covered := List.find?_some found
    have lifted := high shift (List.mem_of_find?_eq_some found)
    simp only [CaseShift.covers, Bool.and_eq_true, decide_eq_true_eq] at covered
    -- A shift that ends at no character gives the null character.
    rw [Char.toNat_ofNat]
    split
    · right
      omega
    · exact .inl rfl
  · exact .inl rfl

/-- A bracket is the lower case of itself alone. -/
theorem eq_of_bracket_mem_lowerChar {c bracket : Char} (square : bracket = '[' ∨ bracket = ']')
    (member : bracket ∈ lowerChar c) : c = bracket := by
  have number : bracket.toNat = 0x5B ∨ bracket.toNat = 0x5D := by
    rcases square with rfl | rfl
    · exact .inl rfl
    · exact .inr rfl
  rw [lowerChar] at member
  split at member
  · rcases List.mem_pair.mp member with rfl | rfl
    · exact absurd number (by decide)
    · exact absurd number (by decide)
  · obtain rfl := List.mem_singleton.mp member
    rcases shiftCase_lowercaseShifts_cases c with same | none_such | letter
    · exact same.symm
    · omega
    · omega

private theorem lowerChar_ne_nil (c : Char) : lowerChar c ≠ [] := by
  rw [lowerChar]
  split <;> exact List.cons_ne_nil _ _

private theorem lowerChar_bracket {bracket : Char} (square : bracket = '[' ∨ bracket = ']') :
    lowerChar bracket = [bracket] := by
  rcases square with rfl | rfl <;> decide +kernel

/-- Lower-casing neither makes nor removes a bracket at the start of a text. -/
theorem bracket_prefix_lower_iff {bracket : Char} (square : bracket = '[' ∨ bracket = ']')
    {text : Text} : [bracket] <+: lower text ↔ [bracket] <+: text := by
  have free : SigmaFree [bracket] := by rcases square with rfl | rfl <;> decide
  rw [prefix_lower_iff free, List.singleton_prefix_iff_head?_eq_some,
    List.singleton_prefix_iff_head?_eq_some]
  cases text with
  | nil => rfl
  | cons c rest =>
      rw [lowerEach_cons, List.head?_append_of_ne_nil _ (lowerChar_ne_nil c), List.head?_cons,
        Option.some_inj]
      constructor
      · exact fun first => eq_of_bracket_mem_lowerChar square (List.mem_of_head? first)
      · rintro rfl
        rw [lowerChar_bracket square, List.head?_cons]

/-- Lower-casing neither makes nor removes a bracket at the end of a text. -/
theorem bracket_suffix_lower_iff {bracket : Char} (square : bracket = '[' ∨ bracket = ']')
    {text : Text} : [bracket] <:+ lower text ↔ [bracket] <:+ text := by
  have free : SigmaFree [bracket] := by rcases square with rfl | rfl <;> decide
  rw [suffix_lower_iff free, List.singleton_suffix_iff_getLast?_eq_some,
    List.singleton_suffix_iff_getLast?_eq_some]
  cases text using List.reverseRecOn with
  | nil => rfl
  | append_singleton front c =>
      have last_eq : (lowerEach (front ++ [c])).getLast? = (lowerChar c).getLast? := by
        rw [lowerEach_append, lowerEach_cons, lowerEach_nil, List.append_nil,
          List.getLast?_append_of_ne_nil _ (lowerChar_ne_nil c)]
      rw [last_eq, List.getLast?_concat, Option.some_inj]
      constructor
      · exact fun last => eq_of_bracket_mem_lowerChar square (List.mem_of_getLast? last)
      · rintro rfl
        rw [lowerChar_bracket square, List.getLast?_singleton]

/-! ## Words between blank characters -/

/-- A text without blank characters. -/
def Inked (word : Text) : Prop :=
  ∀ c ∈ word, isBlank c.toNat = false

instance (word : Text) : Decidable (Inked word) :=
  List.decidableBAll (fun c : Char => isBlank c.toNat = false) word

section Inked

variable {word before after : Text} {c : Char}

/-- A word without blank characters lies on one side of a blank character. -/
theorem infix_lowerEach_append_cons_iff (inked : Inked word) (blank : isBlank c.toNat = true)
    (text after : Text) :
    word <:+: lowerEach (text ++ c :: after) ↔
      word <:+: lowerEach text ∨ word <:+: lowerEach after := by
  have absent : c ∉ word := by
    intro member
    have first := inked c member
    rw [blank] at first
    cases first
  rw [lowerEach_append, lowerEach_cons, lowerChar_of_isBlank blank, List.singleton_append,
    infix_append_cons_iff absent]

private theorem infix_lowerEach_of_blank_before (inked : Inked word) (blank : AllBlank before)
    (text : Text) :
    word <:+: lowerEach (before ++ text) ↔ word <:+: lowerEach text := by
  induction before with
  | nil => rw [List.nil_append]
  | cons c before induction =>
      obtain ⟨first, others⟩ := List.forall_mem_cons.mp blank
      have beside := infix_lowerEach_append_cons_iff inked first [] (before ++ text)
      rw [List.nil_append] at beside
      rw [List.cons_append, beside, induction others, or_iff_right_iff_imp]
      exact fun inside => inside.trans List.nil_infix

private theorem infix_lowerEach_of_blank_after (inked : Inked word) (blank : AllBlank after)
    (text : Text) :
    word <:+: lowerEach (text ++ after) ↔ word <:+: lowerEach text := by
  cases after with
  | nil => rw [List.append_nil]
  | cons c after =>
      obtain ⟨first, others⟩ := List.forall_mem_cons.mp blank
      rw [infix_lowerEach_append_cons_iff inked first, or_iff_left_iff_imp]
      intro inside
      -- Among blank characters there is only the empty word.
      have nothing := infix_lowerEach_of_blank_before inked others []
      rw [List.append_nil] at nothing
      exact (nothing.mp inside).trans List.nil_infix

/-- Blank ends hold no part of a word without blank characters. -/
theorem infix_lowerEach_trim_iff (inked : Inked word) (text : Text) :
    word <:+: lowerEach text.trim ↔ word <:+: lowerEach text := by
  obtain ⟨before, after, blank_before, blank_after, text_eq⟩ := exists_blank_ends text
  nth_rewrite 2 [← text_eq]
  rw [infix_lowerEach_of_blank_after inked blank_after,
    infix_lowerEach_of_blank_before inked blank_before]

/-- A word without blank characters lies in one line. -/
theorem infix_lowerEach_join_iff (inked : Inked word) {lines : List Text}
    (some_line : lines ≠ []) :
    word <:+: lowerEach (join ['\n'] lines) ↔ ∃ line ∈ lines, word <:+: lowerEach line := by
  induction lines with
  | nil => exact absurd rfl some_line
  | cons line others induction =>
      cases others with
      | nil => simp [join]
      | cons next others =>
          rw [join_cons_cons, List.append_assoc, List.singleton_append,
            infix_lowerEach_append_cons_iff inked (by decide), induction (by simp),
            List.exists_mem_cons_iff (a := line)]

/-- Whether a text holds a word, apart from case, depends on the trimmed lines alone. -/
theorem holds_lower_iff (free : SigmaFree word) (inked : Inked word) (text : Text) :
    text.lower.holds word = true ↔ ∃ line ∈ text.lines.map trim, word <:+: lowerEach line := by
  rw [holds_iff, infix_lower_iff free, ← join_lines text,
    infix_lowerEach_join_iff inked (lines_ne_nil text), join_lines]
  simp only [List.mem_map, exists_exists_and_eq_and, infix_lowerEach_trim_iff inked]

end Inked

/-! ## Plain words -/

/-- A text of ASCII characters.  The small k is left out: it is also the lower case of the Kelvin
sign. -/
def Plain (word : Text) : Prop :=
  ∀ c ∈ word, c.toNat < 0x80 ∧ c ≠ 'k'

instance (word : Text) : Decidable (Plain word) :=
  List.decidableBAll (fun c : Char => c.toNat < 0x80 ∧ c ≠ 'k') word

/-- Only the Kelvin sign leads to ASCII from outside. -/
theorem shiftCase_lowercaseShifts_of_le {c : Char} (outside : 0x80 ≤ c.toNat) :
    0x80 ≤ (shiftCase lowercaseShifts c).toNat ∨ shiftCase lowercaseShifts c = 'k' := by
  have landing : ∀ shift ∈ lowercaseShifts, shift.last < 0x80 ∨
      (shift.first = 0x212A ∧ shift.last = 0x212A ∧ shift.distance = -8383) ∨
      0x80 ≤ shift.first + shift.distance ∧ shift.last + shift.distance < 0xD800 ∨
      0xE000 ≤ shift.first + shift.distance ∧ shift.last + shift.distance < 0x110000 := by
    decide +kernel
  rw [shiftCase]
  split
  next shift found =>
    have covered := List.find?_some found
    simp only [CaseShift.covers, Bool.and_eq_true, decide_eq_true_eq] at covered
    rcases landing shift (List.mem_of_find?_eq_some found) with
      low | ⟨first, last, far⟩ | lands | lands
    · omega
    · right
      obtain rfl : c = Char.ofNat 0x212A := by
        rw [← Char.ofNat_toNat c, show c.toNat = 0x212A by omega]
      rw [far]
      rfl
    · left
      have valid : (c.toNat + shift.distance).toNat.isValidChar := .inl (by omega)
      rw [Char.toNat_ofNat, if_pos valid]
      omega
    · left
      have valid : (c.toNat + shift.distance).toNat.isValidChar := .inr ⟨by omega, by omega⟩
      rw [Char.toNat_ofNat, if_pos valid]
      omega
  · exact .inl outside

theorem isUpper_iff {c : Char} : c.isUpper = true ↔ 0x41 ≤ c.toNat ∧ c.toNat ≤ 0x5A := by
  rw [Char.isUpper, decide_eq_true_iff]
  exact and_congr UInt32.le_iff_toNat_le UInt32.le_iff_toNat_le

/-- Inside ASCII only the capital letters have small ones. -/
theorem lowerChar_of_lt {c : Char} (inside : c.toNat < 0x80) : lowerChar c = [c.toLower] := by
  by_cases capital : 0x41 ≤ c.toNat ∧ c.toNat ≤ 0x5A
  · have letters : ∀ n, 0x41 ≤ n → n ≤ 0x5A →
        lowerChar (Char.ofNat n) = [(Char.ofNat n).toLower] := by decide +kernel
    simpa using letters c.toNat capital.1 capital.2
  · have apart : ∀ shift ∈ lowercaseShifts,
        shift.first = 0x41 ∧ shift.last = 0x5A ∨ 0x80 ≤ shift.first := by decide +kernel
    have uncovered : ∀ shift ∈ lowercaseShifts, shift.covers c.toNat = false := by
      intro shift shifted
      have := apart shift shifted
      simp only [CaseShift.covers, Bool.and_eq_false_imp, Bool.and_eq_true, decide_eq_true_eq]
      omega
    rw [lowerChar_eq_self (by omega) uncovered,
      Char.toLower_eq_of_not_isUpper (mt isUpper_iff.mp capital)]

private theorem lowerChar_cases (c : Char) :
    lowerChar c = [c.toLower] ∨
      c.toLower = c ∧ 0x80 ≤ c.toNat ∧ ∃ d ∈ lowerChar c, 0x80 ≤ d.toNat ∨ d = 'k' := by
  by_cases inside : c.toNat < 0x80
  · exact .inl (lowerChar_of_lt inside)
  · right
    have outside : 0x80 ≤ c.toNat := Nat.le_of_not_lt inside
    have small : ¬ c.isUpper = true := fun capital => by
      have := isUpper_iff.mp capital
      omega
    refine ⟨Char.toLower_eq_of_not_isUpper small, outside, ?_⟩
    rw [lowerChar]
    split
    · exact ⟨Char.ofNat 0x307, by simp, by decide⟩
    · exact ⟨_, List.mem_singleton_self _, shiftCase_lowercaseShifts_of_le outside⟩

private theorem lowerEach_eq_iff {word : Text} (plain : Plain word) {text : Text} :
    lowerEach text = word ↔ text.map Char.toLower = word := by
  induction text generalizing word with
  | nil => rfl
  | cons c rest induction =>
      rw [lowerEach_cons, List.map_cons]
      rcases lowerChar_cases c with same | ⟨fixed, outside, d, member, strange⟩
      · rw [same, List.singleton_append]
        cases word with
        | nil => simp
        | cons d others =>
            have others_plain : Plain others := fun e member =>
              plain e (List.mem_cons_of_mem d member)
            rw [List.cons_eq_cons, List.cons_eq_cons, induction others_plain]
      · constructor
        · rintro rfl
          obtain ⟨low, other⟩ := plain d (List.mem_append_left _ member)
          rcases strange with high | kelvin
          · omega
          · exact absurd kelvin other
        · rintro rfl
          obtain ⟨low, -⟩ := plain c.toLower List.mem_cons_self
          rw [fixed] at low
          omega

/-- A text is a plain word in lower case if it is the word up to the case of ASCII letters. -/
theorem lower_eq_iff {word : Text} (plain : Plain word) {text : Text} :
    lower text = word ↔ text.map Char.toLower = word := by
  have free : SigmaFree word := by
    intro c member
    have usual := (plain c member).1
    constructor <;> rintro rfl <;> exact absurd usual (by decide)
  rw [← map_medial_eq_iff free, map_medial_lower, map_medial_eq_iff free, lowerEach_eq_iff plain]

end Text
end DiscoveryFiles
