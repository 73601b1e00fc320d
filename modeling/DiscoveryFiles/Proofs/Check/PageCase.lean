import DiscoveryFiles.Proofs.Check.Element

/-!
# Case of letters in web pages

The elements of a page are found in whatever case they are written.  Only the attribute of a
language is looked for in small letters, and only the warning about it depends on the case of
letters.
-/

namespace DiscoveryFiles
namespace Check

open Text

variable {text : Text}

/-! ## Tags -/

private theorem standsFor_toLower (letter c : Char) :
    standsFor letter c.toLower = standsFor letter c := by
  have variants : (caseVariants letter).contains c.toLower = (caseVariants letter).contains c := by
    have outside : ∀ n, 0x41 ≤ n → n ≤ 0x5A →
        (caseVariants letter).contains (Char.ofNat (n + 32)) =
          (caseVariants letter).contains (Char.ofNat n) := by
      unfold caseVariants
      split <;> decide +kernel
    have same := apply_toNat_toLower
      (fun n => (caseVariants letter).contains (Char.ofNat n)) outside c
    simpa only [Char.ofNat_toNat] using same
  rw [standsFor, standsFor, Char.toLower_toLower_eq_toLower, variants]

private theorem behindWords?_foldCase (letters text : Text) :
    behindWords? letters text.foldCase = (behindWords? letters text).map foldCase := by
  induction letters generalizing text with
  | nil => rfl
  | cons letter letters induction =>
      cases text with
      | nil => rfl
      | cons c text =>
          rw [foldCase_cons, behindWords?, behindWords?, standsFor_toLower, induction]
          split <;> rfl

private theorem behind?_foldCase (words : String) (text : Text) :
    behind? words text.foldCase = (behind? words text).map foldCase :=
  behindWords?_foldCase words.toList text

section Stretch

variable {bracket : Char} (plain : bracket.isAlpha = false)

include plain

private theorem takeWhile_foldCase (text : Text) :
    text.foldCase.takeWhile (· ≠ bracket) = foldCase (text.takeWhile (· ≠ bracket)) := by
  simp [foldCase, List.takeWhile_map, Function.comp_def, toLower_eq_iff plain]

private theorem dropWhile_foldCase (text : Text) :
    text.foldCase.dropWhile (· ≠ bracket) = foldCase (text.dropWhile (· ≠ bracket)) := by
  simp [foldCase, List.dropWhile_map, Function.comp_def, toLower_eq_iff plain]

end Stretch

private theorem tagEnd?_foldCase (text : Text) :
    tagEnd? text.foldCase = (tagEnd? text).map (Prod.map foldCase foldCase) := by
  rw [tagEnd?, tagEnd?, takeWhile_foldCase (by decide), dropWhile_foldCase (by decide)]
  rcases text.dropWhile (· ≠ '>') with _ | ⟨c, rest⟩
  · rfl
  · have bracket_iff : c.toLower = '>' ↔ c = '>' := toLower_eq_iff (by decide)
    by_cases bracket : c = '>'
    · rw [bracket]
      rfl
    · simp [bracket_iff, bracket]

/-- What a reader finds behind a text that was found follows the case of that text. -/
theorem bind_foldCase {α : Type} {reader : Text → Option α} {fold : α → α}
    (same : ∀ text : Text, reader text.foldCase = (reader text).map fold) (found : Option Text) :
    (found.map foldCase).bind reader = (found.bind reader).map fold := by
  cases found with
  | none => rfl
  | some rest => exact same rest

private theorem tag_foldCase (words : String) (text : Text) :
    (behind? words text.foldCase).bind tagEnd? =
      ((behind? words text).bind tagEnd?).map (Prod.map foldCase foldCase) := by
  rw [behind?_foldCase, bind_foldCase tagEnd?_foldCase]

private theorem htmlTag?_foldCase (text : Text) :
    htmlTag? text.foldCase = (htmlTag? text).map foldCase := by
  induction text with
  | nil => rfl
  | cons c text induction =>
      have tag_eq := tag_foldCase "<html" (c :: text)
      rw [foldCase_cons] at tag_eq
      rw [foldCase_cons, htmlTag?, htmlTag?, tag_eq]
      cases (behind? "<html" (c :: text)).bind tagEnd? with
      | none => exact induction
      | some tag => simp [foldCase]

/-! ## Elements -/

private theorem fromSomewhere_foldCase {condition : Text → Bool}
    (same : ∀ rest : Text, condition rest.foldCase = condition rest) (text : Text) :
    text.foldCase.fromSomewhere condition = text.fromSomewhere condition := by
  induction text with
  | nil => exact same []
  | cons c rest induction =>
      rw [foldCase_cons, fromSomewhere, fromSomewhere, induction, ← foldCase_cons, same]

private theorem startsTitle_foldCase (text : Text) :
    startsTitle text.foldCase = startsTitle text := by
  rw [startsTitle, startsTitle, behind?_foldCase]
  cases behind? "<title>" text with
  | none => rfl
  | some rest =>
      dsimp only [Option.map_some]
      rw [takeWhile_foldCase (by decide), dropWhile_foldCase (by decide), behind?_foldCase,
        Option.isSome_map, foldCase, List.isEmpty_map]

private theorem startsHeading_foldCase (text : Text) :
    startsHeading text.foldCase = startsHeading text := by
  rw [startsHeading, startsHeading, tag_foldCase]
  rcases (behind? "<h1" text).bind tagEnd? with _ | ⟨attributes, _ | ⟨c, rest⟩⟩
  · rfl
  · rfl
  · have bracket_iff : c.toLower = '<' ↔ c = '<' := toLower_eq_iff (by decide)
    simp [bracket_iff]

private theorem behindQuote?_foldCase (text : Text) :
    behindQuote? text.foldCase = (behindQuote? text).map foldCase := by
  cases text with
  | nil => rfl
  | cons c text =>
      have double_iff : c.toLower = '"' ↔ c = '"' := toLower_eq_iff (by decide)
      have single_iff : c.toLower = '\'' ↔ c = '\'' := toLower_eq_iff (by decide)
      have quote_eq : isQuote c.toLower = isQuote c := by
        simp only [isQuote, double_iff, single_iff]
      rw [foldCase_cons, behindQuote?, behindQuote?, quote_eq]
      split <;> rfl

private theorem startsDescription_foldCase (text : Text) :
    startsDescription text.foldCase = startsDescription text := by
  rw [startsDescription, startsDescription, behind?_foldCase, bind_foldCase behindQuote?_foldCase,
    bind_foldCase (behind?_foldCase "description"), bind_foldCase behindQuote?_foldCase,
    Option.isSome_map]

private theorem startsMeta_foldCase (text : Text) : startsMeta text.foldCase = startsMeta text := by
  rw [startsMeta, startsMeta, tag_foldCase]
  rcases (behind? "<meta" text).bind tagEnd? with _ | ⟨inner, after⟩
  · rfl
  · exact fromSomewhere_foldCase startsDescription_foldCase inner

/-! ## Issues -/

private theorem errors_llmsHtml_foldCase (content : Text) :
    (llmsHtml content.foldCase).errors = (llmsHtml content).errors := by
  have declared : content.foldCase.trim.lower = content.trim.lower := by
    rw [trim_foldCase, lower_foldCase]
  rw [llmsHtml, llmsHtml, declared, htmlTag?_foldCase,
    fromSomewhere_foldCase startsTitle_foldCase, fromSomewhere_foldCase startsHeading_foldCase,
    fromSomewhere_foldCase startsMeta_foldCase]
  cases htmlTag? content with
  | none => rfl
  | some tag =>
      have unlabelled (met : Bool) : (Findings.require met
          (.warning "The <html> element SHOULD include a lang attribute")).errors = [] :=
        Findings.errors_require_eq_nil_iff.mpr (.inr rfl)
      simp only [Option.map_some, Findings.errors_append, unlabelled]

/-- The warning about a page whose element does not declare a language. -/
def unlabelled : Issue :=
  ⟨"The <html> element SHOULD include a lang attribute", none⟩

/-- The warning about a page without a description. -/
def undescribed : Issue :=
  ⟨"File SHOULD contain a <meta name=\"description\"> element", none⟩

/-- A page has at most two warnings, one about its language and one about its metadata. -/
theorem warnings_llmsHtml (content : Text) :
    (llmsHtml content).warnings =
      (if (htmlTag? content).all (·.holds "lang=".toList) then [] else [unlabelled]) ++
        if content.fromSomewhere startsMeta then [] else [undescribed] := by
  have errorless (met : Bool) (text : String) :
      (Findings.require met (.error text)).warnings = [] := by
    rw [Findings.warnings_require, Findings.warnings_error, ite_self]
  simp only [llmsHtml, Findings.warnings_append, errorless, List.nil_append, List.append_nil]
  cases htmlTag? content with
  | none => rw [Findings.warnings_error, Findings.warnings_require]; rfl
  | some tag => rw [Findings.warnings_require, Findings.warnings_require]; rfl

/-- Apart from the language, whether there is a warning is up to the metadata. -/
theorem erase_unlabelled_warnings (content : Text) :
    (llmsHtml content).warnings.erase unlabelled =
      if content.fromSomewhere startsMeta then [] else [undescribed] := by
  have other : undescribed ≠ unlabelled := by decide
  rw [warnings_llmsHtml]
  split <;> split <;> simp [other]

private theorem declaresLanguage_iff {content : Text} :
    DeclaresLanguage content ↔ (htmlTag? content).any (·.holds "lang=".toList) = true := by
  simp only [DeclaresLanguage, ← htmlTag?_eq_some_iff, ← holds_iff, Option.any_eq_true]

/-- Two pages that are the same up to the case of ASCII letters have the same errors.  They have the
same warnings as well, but for the one about the language: it is the same if both pages declare a
language in small letters or neither does. -/
theorem issues_llmsHtml_of_alikeLetters {first second : Text} (alike : AlikeLetters first second) :
    (llmsHtml first).errors = (llmsHtml second).errors ∧
      (llmsHtml first).warnings.erase unlabelled = (llmsHtml second).warnings.erase unlabelled ∧
      ((llmsHtml first).warnings = (llmsHtml second).warnings ↔
        (DeclaresLanguage first ↔ DeclaresLanguage second)) := by
  have described : first.fromSomewhere startsMeta = second.fromSomewhere startsMeta := by
    rw [← fromSomewhere_foldCase startsMeta_foldCase first, alike,
      fromSomewhere_foldCase startsMeta_foldCase]
  have opened : (htmlTag? first).isSome = (htmlTag? second).isSome := by
    rw [← Option.isSome_map, ← htmlTag?_foldCase, alike, htmlTag?_foldCase, Option.isSome_map]
  refine ⟨?_, ?_, ?_⟩
  · rw [← errors_llmsHtml_foldCase first, alike, errors_llmsHtml_foldCase]
  · rw [erase_unlabelled_warnings, erase_unlabelled_warnings, described]
  · rw [warnings_llmsHtml, warnings_llmsHtml, described, List.append_left_inj,
      declaresLanguage_iff, declaresLanguage_iff]
    -- Either both pages have a tag that can declare a language, or neither has one.
    cases first_eq : htmlTag? first <;> cases second_eq : htmlTag? second
    · simp
    · simp [first_eq, second_eq] at opened
    · simp [first_eq, second_eq] at opened
    · simp only [Option.all_some, Option.any_some]
      split <;> split <;> simp_all

/-- All tags of a page may be written in capitals, and so may the attributes but the one of the
language. -/
theorem issues_llmsHtml_of_capitalTags :
    let small : Text :=
      ("<!doctype html><html lang='en'><title>Ada</title>" ++
        "<meta name='description'><h1>Ada</h1>").toList
    let capital : Text :=
      ("<!DOCTYPE HTML><HTML lang='EN'><TITLE>Ada</Title>" ++
        "<Meta NAME='Description'><H1>ADA</H1>").toList
    AlikeLetters small capital ∧ (llmsHtml small).errors = (llmsHtml capital).errors ∧
      (llmsHtml small).warnings.erase unlabelled = (llmsHtml capital).warnings.erase unlabelled ∧
      ((llmsHtml small).warnings = (llmsHtml capital).warnings ↔
        (DeclaresLanguage small ↔ DeclaresLanguage capital)) := by
  intro small capital
  have alike : AlikeLetters small capital := by decide +kernel
  exact ⟨alike, issues_llmsHtml_of_alikeLetters alike⟩

/-- The attribute of a language in capitals is not seen, although nothing but its case differs. -/
theorem llmsHtml_capitalLanguage :
    let small : Text :=
      ("<!DOCTYPE html><html lang=\"en\"><title>Ada</title>" ++
        "<meta name=\"description\"><h1>Ada</h1></html>").toList
    let capital : Text :=
      ("<!DOCTYPE html><html LANG=\"en\"><title>Ada</title>" ++
        "<meta name=\"description\"><h1>Ada</h1></html>").toList
    AlikeLetters small capital ∧ llmsHtml small = ⟨[], []⟩ ∧
      llmsHtml capital = ⟨[], [unlabelled]⟩ := by
  decide +kernel

end Check
end DiscoveryFiles
