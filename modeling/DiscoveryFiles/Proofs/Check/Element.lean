import DiscoveryFiles.Proofs.Check.Html
import DiscoveryFiles.Proofs.Text.LetterCase
import DiscoveryFiles.Text.CaseVariant
import Mathlib.Data.List.Forall2

/-!
# Which elements are found in a web page

The elements that a web page is searched for are described here by the pieces that they consist of.
The search finds an element in a page if and only if some piece of the page is such an element, even
where the pieces could be told apart in several ways.
-/

namespace DiscoveryFiles
namespace Check

open Text

variable {words : String} {letters text rest inner part : Text}

/-! ## Words without regard to case -/

/-- A part of a page reads as some letters if case is ignored, so that any variant of a letter may
stand for it. -/
def Spelled (letters part : Text) : Prop :=
  List.Forall₂ (fun letter c => c.toNat ∈ Text.caseVariants letter.toNat) letters part

/-- The characters of the words that a page is searched for. -/
def tagLetters : Text :=
  "<>/=1acdehilmnoprst".toList

/-- The variants of a letter are the letter itself, its capital, and the characters outside ASCII
that it also stands for. -/
theorem caseVariants_perm : ∀ letter ∈ tagLetters, (Text.caseVariants letter.toNat).Perm
    (letter.toNat :: (if 0x61 ≤ letter.toNat then [letter.toNat - 32] else []) ++
      (caseVariants letter).map Char.toNat) := by
  rw [← List.forall_iff_forall_mem]
  decide +kernel

private theorem standsFor_iff {letter c : Char} (known : letter ∈ tagLetters) :
    standsFor letter c = true ↔ c.toNat ∈ Text.caseVariants letter.toNat := by
  have small : tagLetters.Forall fun letter =>
      letter.toNat < 0x41 ∨ 0x61 ≤ letter.toNat ∧ letter.toNat ≤ 0x7A := by decide
  have letter_small := List.forall_iff_forall_mem.mp small letter known
  have lower_iff : c.toLower = letter ↔ c.toNat = letter.toNat ∨
      c.toNat ∈ if 0x61 ≤ letter.toNat then [letter.toNat - 32] else [] := by
    rw [← Char.toNat_inj]
    have shift : c.toLower.toNat = c.toNat + 32 ∧ 0x41 ≤ c.toNat ∧ c.toNat ≤ 0x5A ∨
        c.toLower.toNat = c.toNat ∧ ¬ (0x41 ≤ c.toNat ∧ c.toNat ≤ 0x5A) := by
      by_cases capital : 0x41 ≤ c.toNat ∧ c.toNat ≤ 0x5A
      · exact .inl ⟨toNat_toLower capital, capital⟩
      · exact .inr ⟨by rw [Char.toLower_eq_of_not_isUpper (mt isUpper_iff.mp capital)], capital⟩
    split
    · rw [List.mem_singleton]
      omega
    · rw [List.mem_nil_iff, or_false]
      omega
  have injective : Function.Injective Char.toNat := fun _ _ => Char.toNat_inj.mp
  rw [standsFor, Bool.or_eq_true, beq_iff_eq, lower_iff, (caseVariants_perm letter known).mem_iff,
    List.mem_append, List.mem_cons, List.mem_map_of_injective injective, List.contains_iff_mem]

private theorem behindWords?_eq_some_iff (known : letters ⊆ tagLetters) :
    behindWords? letters text = some rest ↔ ∃ part, text = part ++ rest ∧ Spelled letters part := by
  induction letters generalizing text with
  | nil => simp [behindWords?, Spelled]
  | cons letter letters induction =>
      obtain ⟨first, others⟩ := List.cons_subset.mp known
      simp only [Spelled, List.forall₂_cons_left_iff]
      cases text with
      | nil => simp [behindWords?]
      | cons c text =>
          rw [behindWords?]
          split
          next same =>
            rw [induction others]
            constructor
            · rintro ⟨part, rfl, spelled⟩
              exact ⟨c :: part, rfl, c, part, (standsFor_iff first).mp same, spelled, rfl⟩
            · rintro ⟨_, pieces, d, part, -, spelled, rfl⟩
              exact ⟨part, (List.cons.inj pieces).2, spelled⟩
          next other =>
            refine iff_of_false (Option.some_ne_none _).symm ?_
            rintro ⟨_, pieces, d, part, same, -, rfl⟩
            obtain rfl := (List.cons.inj pieces).1
            exact other ((standsFor_iff first).mpr same)

private theorem behind?_eq_some_iff (known : words.toList ⊆ tagLetters) :
    behind? words text = some rest ↔ ∃ part, text = part ++ rest ∧ Spelled words.toList part :=
  behindWords?_eq_some_iff known

/-- A character that no letter stands for does not occur in what reads as the letters. -/
theorem Spelled.not_mem {c : Char} (spelled : Spelled letters part) (known : letters ⊆ tagLetters)
    (apart : letters.any (standsFor · c) = false) : c ∉ part := by
  induction spelled with
  | nil => exact List.not_mem_nil
  | cons same _ induction =>
      obtain ⟨first, others⟩ := Bool.or_eq_false_iff.mp (List.any_cons ▸ apart)
      obtain ⟨first_known, others_known⟩ := List.cons_subset.mp known
      refine List.not_mem_cons_of_ne_of_not_mem ?_ (induction others_known others)
      rintro rfl
      exact Bool.eq_false_iff.mp first ((standsFor_iff first_known).mpr same)

/-- What reads as letters behind an opening bracket begins with the bracket. -/
theorem Spelled.exists_cons (spelled : Spelled letters part)
    (bracket : letters.head? = some '<') : ∃ others, part = '<' :: others := by
  obtain ⟨others, rfl⟩ := List.head?_eq_some_iff.mp bracket
  rw [Spelled, List.forall₂_cons_left_iff] at spelled
  obtain ⟨c, others, same, -, rfl⟩ := spelled
  have stands := (standsFor_iff (by decide)).mpr same
  have bare : caseVariants '<' = [] := rfl
  rw [standsFor, bare, List.contains_nil, Bool.or_false, beq_iff_eq,
    toLower_eq_iff (by decide)] at stands
  exact ⟨others, by rw [stands]⟩

/-! ## Tags -/

/-- A text up to the first place of a character is what stands in front of a place of the character
without holding it. -/
theorem split_iff {c : Char} :
    (text.takeWhile (· ≠ c) = inner ∧ text.dropWhile (· ≠ c) = c :: rest) ↔
      text = inner ++ c :: rest ∧ c ∉ inner := by
  constructor
  · rintro ⟨rfl, behind⟩
    refine ⟨?_, fun member => ?_⟩
    · rw [← behind, List.takeWhile_append_dropWhile]
    · simpa using List.mem_takeWhile_imp member
  · rintro ⟨rfl, absent⟩
    have other : ∀ d ∈ inner, decide (d ≠ c) = true := fun d member =>
      decide_eq_true (ne_of_mem_of_not_mem member absent)
    constructor
    · rw [List.takeWhile_append_of_pos other]
      simp
    · rw [List.dropWhile_append_of_pos other]
      simp

private theorem tagEnd?_eq_some_iff :
    tagEnd? text = some (inner, rest) ↔ text = inner ++ '>' :: rest ∧ '>' ∉ inner := by
  rw [← split_iff, tagEnd?]
  split
  next behind behind_eq =>
    rw [behind_eq, Option.some_inj, Prod.mk.injEq, List.cons.injEq, eq_self, true_and]
  next other =>
    exact iff_of_false (Option.some_ne_none _).symm fun pieces => other rest pieces.2

private theorem tag_eq_some_iff (known : words.toList ⊆ tagLetters) :
    (behind? words text).bind tagEnd? = some (inner, rest) ↔
      ∃ opening, text = opening ++ inner ++ '>' :: rest ∧ Spelled words.toList opening ∧
        '>' ∉ inner := by
  simp only [Option.bind_eq_some_iff, behind?_eq_some_iff known, tagEnd?_eq_some_iff]
  constructor
  · rintro ⟨_, ⟨opening, rfl, spelled⟩, rfl, inside⟩
    exact ⟨opening, (List.append_assoc ..).symm, spelled, inside⟩
  · rintro ⟨opening, rfl, spelled, inside⟩
    exact ⟨inner ++ '>' :: rest, ⟨opening, List.append_assoc .., spelled⟩, rfl, inside⟩

/-! ## Elements at the start of a text -/

/-- A title: its opening tag, characters other than an opening bracket, and its closing tag. -/
def OpensTitle (text : Text) : Prop :=
  ∃ opening title closing after, text = opening ++ title ++ closing ++ after ∧
    Spelled "<title>".toList opening ∧ title ≠ [] ∧ '<' ∉ title ∧ Spelled "</title>".toList closing

/-- A first-level heading: its tag and a character other than an opening bracket. -/
def OpensHeading (text : Text) : Prop :=
  ∃ opening attributes c after, text = opening ++ attributes ++ '>' :: c :: after ∧
    Spelled "<h1".toList opening ∧ '>' ∉ attributes ∧ c ≠ '<'

/-- A page element: its tag, which is closed somewhere. -/
def OpensPage (text : Text) : Prop :=
  ∃ opening rest, text = opening ++ rest ∧ Spelled "<html".toList opening ∧ '>' ∈ rest

/-- The attribute that names a description, with a quote of either kind at both ends of the name. -/
def NamesDescription (entry : Text) : Prop :=
  ∃ name first description last, entry = name ++ first :: description ++ [last] ∧
    Spelled "name=".toList name ∧ first ∈ ['"', '\''] ∧ Spelled "description".toList description ∧
    last ∈ ['"', '\'']

/-- Metadata with a description: its tag, which is closed somewhere, and the attribute that names a
description before the first closing bracket. -/
def OpensDescription (text : Text) : Prop :=
  ∃ opening front entry rest, text = opening ++ front ++ entry ++ rest ∧
    Spelled "<meta".toList opening ∧ '>' ∉ front ∧ NamesDescription entry ∧ '>' ∈ rest

private theorem startsTitle_iff : startsTitle text = true ↔ OpensTitle text := by
  have pieces_iff : startsTitle text = true ↔
      ∃ rest, behind? "<title>" text = some rest ∧ rest.takeWhile (· ≠ '<') ≠ [] ∧
        ∃ after, behind? "</title>" (rest.dropWhile (· ≠ '<')) = some after := by
    rw [startsTitle]
    cases behind? "<title>" text <;> simp [Option.isSome_iff_exists]
  have opening_known : "<title>".toList ⊆ tagLetters := by decide
  have closing_known : "</title>".toList ⊆ tagLetters := by decide
  simp only [pieces_iff, behind?_eq_some_iff opening_known, behind?_eq_some_iff closing_known]
  constructor
  · rintro ⟨_, ⟨opening, rfl, opened⟩, filled, after, closing, closing_eq, closed⟩
    obtain ⟨others, rfl⟩ := closed.exists_cons rfl
    obtain ⟨rest_eq, absent⟩ := split_iff.mp ⟨rfl, closing_eq⟩
    refine ⟨opening, _, _, after, ?_, opened, filled, absent, closed⟩
    rw [List.append_assoc, List.append_assoc]
    exact congrArg (opening ++ ·) rest_eq
  · rintro ⟨opening, title, closing, after, rfl, opened, filled, absent, closed⟩
    obtain ⟨others, rfl⟩ := closed.exists_cons rfl
    have pieces : title ++ ('<' :: others ++ after) = title ++ '<' :: (others ++ after) := rfl
    obtain ⟨title_eq, behind_eq⟩ := split_iff.mpr ⟨pieces, absent⟩
    refine ⟨title ++ ('<' :: others ++ after), ⟨opening, by simp, opened⟩, ?_, after,
      '<' :: others, behind_eq, closed⟩
    rwa [title_eq]

private theorem startsHeading_iff : startsHeading text = true ↔ OpensHeading text := by
  have known : "<h1".toList ⊆ tagLetters := by decide
  rw [startsHeading]
  constructor
  · intro found
    split at found
    next attributes c after tag_eq =>
      obtain ⟨opening, rfl, opened, inside⟩ := (tag_eq_some_iff known).mp tag_eq
      exact ⟨opening, attributes, c, after, rfl, opened, inside, by simpa using found⟩
    · cases found
  · rintro ⟨opening, attributes, c, after, rfl, opened, inside, other⟩
    rw [(tag_eq_some_iff known).mpr ⟨opening, rfl, opened, inside⟩]
    simpa using other

private theorem behindQuote?_eq_some_iff :
    behindQuote? text = some rest ↔ ∃ quote ∈ ['"', '\''], text = quote :: rest := by
  cases text with
  | nil => simp [behindQuote?]
  | cons c text =>
      have quote_iff : isQuote c = true ↔ c ∈ ['"', '\''] := by simp [isQuote]
      rw [behindQuote?]
      split
      next quoted =>
        constructor
        · rintro ⟨⟩
          exact ⟨c, quote_iff.mp quoted, rfl⟩
        · rintro ⟨quote, -, pieces⟩
          rw [(List.cons.inj pieces).2]
      next plain =>
        refine iff_of_false (Option.some_ne_none _).symm ?_
        rintro ⟨quote, member, pieces⟩
        obtain rfl := (List.cons.inj pieces).1
        exact plain (quote_iff.mpr member)

private theorem startsDescription_iff :
    startsDescription text = true ↔
      ∃ entry rest, text = entry ++ rest ∧ NamesDescription entry := by
  have name_known : "name=".toList ⊆ tagLetters := by decide
  have description_known : "description".toList ⊆ tagLetters := by decide
  simp only [startsDescription, Option.isSome_iff_exists, Option.bind_eq_some_iff,
    behind?_eq_some_iff name_known, behind?_eq_some_iff description_known,
    behindQuote?_eq_some_iff]
  constructor
  · rintro ⟨rest, _, ⟨_, ⟨_, ⟨name, rfl, named⟩, first, opened, rfl⟩, description, rfl, described⟩,
      last, closed, rfl⟩
    exact ⟨name ++ first :: description ++ [last], rest, by simp, name, first, description, last,
      rfl, named, opened, described, closed⟩
  · rintro ⟨_, rest, rfl, name, first, description, last, rfl, named, opened, described, closed⟩
    exact ⟨rest, last :: rest, ⟨description ++ last :: rest, ⟨first :: description ++ last :: rest,
      ⟨name, by simp, named⟩, first, opened, rfl⟩, description, rfl, described⟩, last, closed, rfl⟩

private theorem NamesDescription.not_mem {entry : Text} (names : NamesDescription entry) :
    '>' ∉ entry := by
  obtain ⟨name, first, description, last, rfl, named, opened, described, closed⟩ := names
  have quotes : '>' ∉ ['"', '\''] := by decide
  have not_named := named.not_mem (c := '>') (by decide) (by decide)
  have not_described := described.not_mem (c := '>') (by decide) (by decide)
  simp [not_named, not_described, (ne_of_mem_of_not_mem opened quotes).symm,
    (ne_of_mem_of_not_mem closed quotes).symm]

private theorem startsMeta_iff : startsMeta text = true ↔ OpensDescription text := by
  have known : "<meta".toList ⊆ tagLetters := by decide
  have pieces_iff : startsMeta text = true ↔
      ∃ tag, (behind? "<meta" text).bind tagEnd? = some tag ∧
        ∃ rest, rest <:+ tag.1 ∧ startsDescription rest = true := by
    rw [startsMeta]
    cases (behind? "<meta" text).bind tagEnd? <;> simp [fromSomewhere_iff]
  simp only [pieces_iff, Prod.exists, tag_eq_some_iff known, startsDescription_iff]
  constructor
  · rintro ⟨_, after, ⟨opening, rfl, opened, inside⟩, _, ⟨front, rfl⟩, entry, rest, rfl, names⟩
    refine ⟨opening, front, entry, rest ++ '>' :: after, by simp, opened, ?_, names, by simp⟩
    exact fun member => inside (List.mem_append_left _ member)
  · rintro ⟨opening, front, entry, rest, rfl, opened, inside, names, closed⟩
    obtain ⟨tail, after, rfl, absent⟩ := List.eq_append_cons_of_mem closed
    refine ⟨front ++ (entry ++ tail), after, ⟨opening, by simp, opened, ?_⟩, entry ++ tail,
      List.suffix_append _ _, entry, tail, rfl, names⟩
    simp [inside, names.not_mem, absent]

/-! ## The tag of the page element -/

/-- A text is the first tag of a page element in a page, from its opening bracket to the first
closing bracket behind it. -/
def IsPageTag (content tag : Text) : Prop :=
  ∃ before opening inner after, content = before ++ opening ++ inner ++ '>' :: after ∧
    Spelled "<html".toList opening ∧ '>' ∉ inner ∧ tag = opening ++ inner ++ ['>'] ∧
    ∀ earlier later, content = earlier ++ later → OpensPage later →
      before.length ≤ earlier.length

private theorem pageTag_eq_some_iff :
    (behind? "<html" text).bind tagEnd? = some (inner, rest) ↔
      ∃ opening, text = opening ++ inner ++ '>' :: rest ∧ Spelled "<html".toList opening ∧
        '>' ∉ inner :=
  tag_eq_some_iff (by decide)

private theorem opensPage_iff :
    OpensPage text ↔ ∃ tag, (behind? "<html" text).bind tagEnd? = some tag := by
  simp only [Prod.exists, pageTag_eq_some_iff]
  constructor
  · rintro ⟨opening, rest, rfl, opened, closed⟩
    obtain ⟨inner, after, rfl, absent⟩ := List.eq_append_cons_of_mem closed
    exact ⟨inner, after, opening, (List.append_assoc ..).symm, opened, absent⟩
  · rintro ⟨inner, after, opening, rfl, opened, absent⟩
    exact ⟨opening, inner ++ '>' :: after, List.append_assoc .., opened, by simp⟩

/-- A tag at the start of a page is the first one. -/
theorem isPageTag_iff_of_found {content tag : Text}
    (found : (behind? "<html" content).bind tagEnd? = some (inner, rest)) :
    IsPageTag content tag ↔ tag = content.take ("<html".length + inner.length) ++ ['>'] := by
  obtain ⟨opening, rfl, opened, inside⟩ := pageTag_eq_some_iff.mp found
  have length_eq : opening.length = "<html".length := opened.length_eq.symm
  have taken : (opening ++ inner ++ '>' :: rest).take ("<html".length + inner.length) =
      opening ++ inner := List.take_left' (by rw [List.length_append, length_eq])
  rw [taken]
  constructor
  · rintro ⟨before, other, between, after, pieces, spelled, absent, rfl, first⟩
    have nothing : before = [] := List.length_eq_zero_iff.mp <| Nat.le_zero.mp <|
      first [] _ rfl (opensPage_iff.mpr ⟨_, found⟩)
    rw [nothing, List.nil_append] at pieces
    have same := found.symm.trans (pageTag_eq_some_iff.mpr ⟨other, pieces, spelled, absent⟩)
    obtain ⟨rfl, rfl⟩ := Prod.mk.inj (Option.some.inj same)
    rw [List.append_left_inj, List.append_left_inj] at pieces
    rw [pieces]
  · rintro rfl
    exact ⟨[], opening, inner, rest, rfl, opened, inside, rfl, fun _ _ _ _ => Nat.zero_le _⟩

/-- Where no tag starts a page, its first tag is that of what follows. -/
theorem isPageTag_cons {c : Char} {content tag : Text} (unopened : ¬ OpensPage (c :: content)) :
    IsPageTag (c :: content) tag ↔ IsPageTag content tag := by
  constructor
  · rintro ⟨before, opening, inner, after, pieces, opened, inside, rfl, first⟩
    cases before with
    | nil =>
        refine absurd ⟨opening, inner ++ '>' :: after, ?_, opened, by simp⟩ unopened
        simpa using pieces
    | cons d before =>
        obtain ⟨rfl, rfl⟩ := List.cons.inj pieces
        refine ⟨before, opening, inner, after, rfl, opened, inside, rfl, ?_⟩
        intro earlier later pieces opens
        have behind := first (c :: earlier) later (congrArg (c :: ·) pieces) opens
        simpa using behind
  · rintro ⟨before, opening, inner, after, rfl, opened, inside, rfl, first⟩
    refine ⟨c :: before, opening, inner, after, rfl, opened, inside, rfl, ?_⟩
    intro earlier later pieces opens
    cases earlier with
    | nil => exact absurd (pieces ▸ opens) unopened
    | cons d earlier => exact Nat.succ_le_succ (first earlier later (List.cons.inj pieces).2 opens)

theorem htmlTag?_eq_some_iff {content tag : Text} :
    htmlTag? content = some tag ↔ IsPageTag content tag := by
  induction content with
  | nil =>
      refine iff_of_false (Option.some_ne_none _).symm ?_
      rintro ⟨before, opening, inner, after, pieces, -⟩
      simp at pieces
  | cons c content induction =>
      rw [htmlTag?]
      split
      next inner rest found => rw [isPageTag_iff_of_found found, Option.some_inj, eq_comm]
      next missing =>
        have unopened : ¬ OpensPage (c :: content) := by simp [opensPage_iff, missing]
        rw [induction, isPageTag_cons unopened]

/-! ## Elements in a page -/

/-- An element stands somewhere in a page. -/
def StandsIn (element : Text → Prop) (content : Text) : Prop :=
  ∃ rest, rest <:+ content ∧ element rest

private theorem fromSomewhere_iff_standsIn {condition : Text → Bool} {element : Text → Prop}
    (start_iff : ∀ {text}, condition text = true ↔ element text) {content : Text} :
    content.fromSomewhere condition = true ↔ StandsIn element content := by
  simp only [fromSomewhere_iff, StandsIn, start_iff]

private theorem standsIn_cons {element : Text → Prop} {c : Char} {content : Text} :
    StandsIn element (c :: content) ↔ element (c :: content) ∨ StandsIn element content := by
  simp [StandsIn, List.suffix_cons_iff, or_and_right, exists_or]

/-- A page has a first tag of a page element if such an element stands anywhere in it. -/
theorem exists_isPageTag_iff {content : Text} :
    (∃ tag, IsPageTag content tag) ↔ StandsIn OpensPage content := by
  simp only [← htmlTag?_eq_some_iff]
  induction content with
  | nil =>
      refine iff_of_false (by simp [htmlTag?]) ?_
      rintro ⟨rest, behind, opening, tail, pieces, opened, closed⟩
      rw [List.suffix_nil.mp behind] at pieces
      simp [(List.append_eq_nil_iff.mp pieces.symm).2] at closed
  | cons c content induction =>
      rw [standsIn_cons, opensPage_iff, htmlTag?, ← induction]
      split
      next inner after found => simp [found]
      next missing => simp [missing]

/-- The first tag of the page element holds the attribute of a language, in small letters. -/
def DeclaresLanguage (content : Text) : Prop :=
  ∃ tag, IsPageTag content tag ∧ "lang=".toList <:+: tag

/-- The issues that a web page has tell which elements stand in it. -/
theorem issues_llmsHtml_iff (content : Text) :
    (⟨"File MUST contain a non-empty <title> element", none⟩ ∉ (llmsHtml content).errors ↔
        StandsIn OpensTitle content) ∧
      (⟨"File MUST contain an <h1> element with the organisation name", none⟩ ∉
          (llmsHtml content).errors ↔ StandsIn OpensHeading content) ∧
      (⟨"File MUST contain an <html> element", none⟩ ∉ (llmsHtml content).errors ↔
        StandsIn OpensPage content) ∧
      (StandsIn OpensPage content →
        (⟨"The <html> element SHOULD include a lang attribute", none⟩ ∉
          (llmsHtml content).warnings ↔ DeclaresLanguage content)) ∧
      (⟨"File SHOULD contain a <meta name=\"description\"> element", none⟩ ∉
          (llmsHtml content).warnings ↔ StandsIn OpensDescription content) := by
  simp only [← fromSomewhere_iff_standsIn startsTitle_iff,
    ← fromSomewhere_iff_standsIn startsHeading_iff, ← fromSomewhere_iff_standsIn startsMeta_iff,
    ← exists_isPageTag_iff, DeclaresLanguage, ← htmlTag?_eq_some_iff, ← holds_iff, llmsHtml]
  cases htmlTag? content with
  | none =>
      simp [Findings.errors_require, Findings.warnings_require]
  | some tag =>
      simp [Findings.errors_require, Findings.warnings_require]

/-- Elements may follow others of their kind that do not count, and a tag may hold the start of
another. -/
theorem issues_llmsHtml_of_overlappingTags :
    let page : Text :=
      ("<!DOCTYPE html><HTML <html lang=en><title></title><Title>Ada</title><h1></h1>" ++
        "<h1 id=a>Ada</h1><meta name='x' name=\"description\">").toList
    StandsIn OpensPage page ∧ llmsHtml page = ⟨[], []⟩ ∧ StandsIn OpensTitle page ∧
      StandsIn OpensHeading page ∧ DeclaresLanguage page ∧ StandsIn OpensDescription page := by
  intro page
  have clean : llmsHtml page = ⟨[], []⟩ := by decide +kernel
  obtain ⟨title_iff, heading_iff, page_iff, language_iff, description_iff⟩ :=
    issues_llmsHtml_iff page
  rw [clean] at title_iff heading_iff page_iff language_iff description_iff
  have opened : StandsIn OpensPage page := page_iff.mp List.not_mem_nil
  exact ⟨opened, clean, title_iff.mp List.not_mem_nil, heading_iff.mp List.not_mem_nil,
    (language_iff opened).mp List.not_mem_nil, description_iff.mp List.not_mem_nil⟩

end Check
end DiscoveryFiles
