import DiscoveryFiles.Proofs.Check.Html
import DiscoveryFiles.Proofs.Check.Questions
import DiscoveryFiles.Proofs.Check.TextKind
import DiscoveryFiles.Proofs.Text.Lines

/-!
# Texts behind each other

A text without errors stays without errors when other text follows it on a new line.  Only questions
and answers need the other text to be without errors as well.
-/

namespace DiscoveryFiles
namespace Check

open Text

/-! ## Blank texts -/

private theorem isBlank_append_cons (first second : Text) :
    isBlank (first ++ '\n' :: second) = (isBlank first && isBlank second) := by
  rw [isBlank_eq_all_lines, lines_append_cons, List.all_append, ← isBlank_eq_all_lines,
    ← isBlank_eq_all_lines]

/-! ## Summaries -/

private theorem firstFilled?_append {number : Nat} {first : List Text} {found : Nat × Text}
    (filled : firstFilled? number first = some found) (second : List Text) :
    firstFilled? number (first ++ second) = some found := by
  induction first generalizing number with
  | nil => cases filled
  | cons line first induction =>
      rw [firstFilled?] at filled
      rw [List.cons_append, firstFilled?]
      split at filled
      next blank => rw [if_pos blank, induction filled]
      next inked => rw [if_neg inked, filled]

private theorem hasQuote_append {first : List Text} (quoted : hasQuote first = true)
    (second : List Text) : hasQuote (first ++ second) = true := by
  rw [hasQuote, List.any_append, ← hasQuote, quoted, Bool.true_or]

private theorem errors_headingFindings_eq_nil_iff {number : Nat} {line : Text} :
    (headingFindings number line).errors = [] ↔ line.begins "# " = true := by
  rw [headingFindings]
  split
  next lone =>
    have unfinished : begins ['#'] "# " = false := by decide
    rw [lone, unfinished]
    simp
  next other => split <;> simp_all

/-- The sections of a summary are only recommended. -/
theorem errors_sectionFindings (titles : List Text) : (sectionFindings titles).errors = [] := by
  rw [sectionFindings, Findings.errors_append, List.append_eq_nil_iff,
    Findings.errors_require_eq_nil_iff, Findings.errors_all_eq_nil_iff, List.forall_mem_map]
  exact ⟨.inr rfl, fun entry _ => Findings.errors_require_eq_nil_iff.mpr (.inr rfl)⟩

/-- The first line that is not blank is a first-level heading. -/
def IsTitled (lines : List Text) : Prop :=
  ∃ found, firstFilled? 1 lines = some found ∧ found.2.begins "# " = true

theorem IsTitled.append {first : List Text} (titled : IsTitled first) (second : List Text) :
    IsTitled (first ++ second) := by
  obtain ⟨found, filled, heading⟩ := titled
  exact ⟨found, firstFilled?_append filled second, heading⟩

private theorem errors_llmsTxt_eq_nil_iff {content : Text} :
    (llmsTxt content).errors = [] ↔ IsTitled content.lines ∧ hasQuote content.lines = true := by
  rw [llmsTxt, IsTitled]
  cases filled : firstFilled? 1 content.lines with
  | none => simp
  | some found =>
      simp [errors_headingFindings_eq_nil_iff, errors_sectionFindings,
        Findings.errors_require_eq_nil_iff]

private theorem errors_llmTxt_eq_nil_iff {content : Text} :
    (llmTxt content).errors = [] ↔ IsTitled content.lines := by
  rw [llmTxt, IsTitled]
  cases filled : firstFilled? 1 content.lines with
  | none => simp
  | some found => simp [Findings.errors_require_eq_nil_iff]

/-! ## Sections -/

/-- There is a section with a name, and one of its lines meets a condition. -/
def Lists (name : String) (condition : Text → Bool) (lines : List Text) : Prop :=
  hasSection name lines = true ∧ (sectionLines name lines).any condition = true

/-- The lines of sections are followed by those of later sections. -/
theorem sectionLines_prefix (name : String) (first second : List Text) :
    sectionLines name first <+: sectionLines name (first ++ second) := by
  have from_either (inside : Bool) :
      sectionLinesFrom name inside first <+: sectionLinesFrom name inside (first ++ second) := by
    induction first generalizing inside with
    | nil => exact List.nil_prefix
    | cons line first induction =>
        rw [List.cons_append, sectionLinesFrom, sectionLinesFrom]
        split
        · exact induction true
        split
        · exact induction false
        split
        · exact List.cons_prefix_cons.mpr ⟨rfl, induction true⟩
        · exact induction false
  exact from_either false

theorem Lists.append {name : String} {condition : Text → Bool} {first : List Text}
    (listed : Lists name condition first) (second : List Text) :
    Lists name condition (first ++ second) := by
  obtain ⟨named, found⟩ := listed
  obtain ⟨more, more_eq⟩ := sectionLines_prefix name first second
  constructor
  · rw [hasSection, List.any_append, ← hasSection, named, Bool.true_or]
  · rw [← more_eq, List.any_append, found, Bool.true_or]

private theorem errors_identityFindings_eq_nil_iff {lines : List Text} :
    (identityFindings lines).errors = [] ↔
      Lists "identity" (fun line => (normal line).begins "name:") lines ∧
        Lists "identity" (fun line => (normal line).begins "url:") lines := by
  rw [identityFindings, Lists, Lists]
  split <;> simp_all [fieldFindings, Findings.errors_require_eq_nil_iff]

private theorem errors_listFindings_eq_nil_iff {lines : List Text} {name : String} :
    (listFindings lines name).errors = [] ↔ Lists name (·.trim.begins "- ") lines := by
  rw [listFindings, Lists]
  split <;> simp_all [Findings.errors_require_eq_nil_iff]

private theorem errors_nameFindings_eq_nil_iff {lines : List Text} {wanted : NameSection} :
    (nameFindings lines wanted).errors = [] ↔ Lists wanted.name isEntry lines := by
  rw [nameFindings, Lists]
  split <;> simp_all [Findings.errors_require_eq_nil_iff]

/-- The sections that an interaction policy must have. -/
structure IsPolicyText (lines : List Text) : Prop where
  /-- The identity has a name. -/
  named : Lists "identity" (fun line => (normal line).begins "name:") lines
  /-- The identity has an address. -/
  addressed : Lists "identity" (fun line => (normal line).begins "url:") lines
  /-- There is a permission. -/
  permitted : Lists "permissions" (·.trim.begins "- ") lines
  /-- There is a restriction. -/
  restricted : Lists "restrictions" (·.trim.begins "- ") lines

theorem IsPolicyText.append {first : List Text} (policy : IsPolicyText first)
    (second : List Text) : IsPolicyText (first ++ second) where
  named := policy.named.append second
  addressed := policy.addressed.append second
  permitted := policy.permitted.append second
  restricted := policy.restricted.append second

private theorem errors_aiTxt_eq_nil_iff {content : Text} :
    (aiTxt content).errors = [] ↔ isBlank content = false ∧ IsPolicyText content.lines := by
  rw [aiTxt, errors_unless_isBlank_eq_nil_iff]
  refine and_congr_right fun _ => ?_
  simp only [Findings.errors_append, List.append_eq_nil_iff,
    errors_identityFindings_eq_nil_iff, errors_listFindings_eq_nil_iff]
  constructor
  · rintro ⟨⟨⟨named, addressed⟩, permitted⟩, restricted⟩
    exact ⟨named, addressed, permitted, restricted⟩
  · intro policy
    exact ⟨⟨⟨policy.named, policy.addressed⟩, policy.permitted⟩, policy.restricted⟩

private theorem errors_brandTxt_eq_nil_iff {content : Text} :
    (brandTxt content).errors = [] ↔
      isBlank content = false ∧
        ∀ wanted ∈ nameSections, Lists wanted.name isEntry content.lines := by
  rw [brandTxt, errors_unless_isBlank_eq_nil_iff, Findings.errors_all_eq_nil_iff,
    List.forall_mem_map]
  simp only [errors_nameFindings_eq_nil_iff]

/-! ## Vocabularies -/

private theorem errors_vocabulary_eq_nil_iff {words : List String} {message : String}
    {content : Text} :
    (vocabulary words message content).errors = [] ↔ isBlank content = false := by
  rw [vocabulary, errors_unless_isBlank_eq_nil_iff, Findings.errors_require_eq_nil_iff]
  simp

/-! ## All kinds -/

/-- A text without errors, with other text on the lines behind it, has no errors.  Of questions and
answers the other text must have no errors either. -/
theorem errors_of_concatenation {kind : TextKind} {first second : Text}
    (valid : (kind.check first).errors = [])
    (alsoValid : kind = .faqAiTxt → (kind.check second).errors = []) :
    (kind.check (first ++ '\n' :: second)).errors = [] := by
  have inked_append {more : Text} (inked : isBlank first = false) :
      isBlank (first ++ '\n' :: more) = false := by
    rw [isBlank_append_cons, inked, Bool.false_and]
  cases kind with
  | llmsTxt =>
      obtain ⟨titled, quoted⟩ := errors_llmsTxt_eq_nil_iff.mp valid
      refine errors_llmsTxt_eq_nil_iff.mpr ?_
      rw [lines_append_cons]
      exact ⟨titled.append second.lines, hasQuote_append quoted second.lines⟩
  | llmTxt =>
      have titled := errors_llmTxt_eq_nil_iff.mp valid
      refine errors_llmTxt_eq_nil_iff.mpr ?_
      rw [lines_append_cons]
      exact titled.append second.lines
  | llmsHtml =>
      have page := errors_llmsHtml_eq_nil_iff.mp valid
      exact errors_llmsHtml_eq_nil_iff.mpr (page.append ('\n' :: second))
  | aiTxt =>
      obtain ⟨inked, policy⟩ := errors_aiTxt_eq_nil_iff.mp valid
      refine errors_aiTxt_eq_nil_iff.mpr ⟨inked_append inked, ?_⟩
      rw [lines_append_cons]
      exact policy.append second.lines
  | brandTxt =>
      obtain ⟨inked, names⟩ := errors_brandTxt_eq_nil_iff.mp valid
      refine errors_brandTxt_eq_nil_iff.mpr ⟨inked_append inked, ?_⟩
      rw [lines_append_cons]
      exact fun wanted member => (names wanted member).append second.lines
  | faqAiTxt =>
      obtain ⟨inked, answered⟩ := errors_faqAiTxt_eq_nil_iff.mp valid
      obtain ⟨-, alsoAnswered⟩ := errors_faqAiTxt_eq_nil_iff.mp (alsoValid rfl)
      refine errors_faqAiTxt_eq_nil_iff.mpr ⟨inked_append inked, ?_⟩
      rw [lines_append_cons]
      exact answered.append alsoAnswered
  | developerAiTxt =>
      have inked := errors_vocabulary_eq_nil_iff.mp valid
      exact errors_vocabulary_eq_nil_iff.mpr (inked_append inked)
  | robotsAiTxt =>
      have inked := errors_vocabulary_eq_nil_iff.mp valid
      exact errors_vocabulary_eq_nil_iff.mpr (inked_append inked)

/-- A page of answered questions behind another one. -/
theorem errors_of_two_pages :
    let first : Text := "Q: Why?\nWhen?\nA: So.".toList
    let second : Text := "## More\n**Q: How?**\n A: Thus.".toList
    (TextKind.faqAiTxt.check first).errors = [] ∧ (TextKind.faqAiTxt.check second).errors = [] ∧
      (TextKind.faqAiTxt.check (first ++ '\n' :: second)).errors = [] := by
  intro first second
  have valid : (TextKind.faqAiTxt.check first).errors = [] := by decide +kernel
  have alsoValid : (TextKind.faqAiTxt.check second).errors = [] := by decide +kernel
  exact ⟨valid, alsoValid, errors_of_concatenation valid fun _ => alsoValid⟩

end Check
end DiscoveryFiles
