import DiscoveryFiles.Proofs.Check.Sections
import DiscoveryFiles.Proofs.Check.TextKind

/-!
# Blank ends of lines

Apart from the one for web pages, the checks of text look at lines only after their blank ends are
cut off.  So indentation and other conventions for line ends make no difference to them.
-/

namespace DiscoveryFiles
namespace Check

open Text

/-- Two texts with as many lines, which are the same up to blank ends. -/
def AlikeLines (first second : Text) : Prop :=
  first.lines.map trim = second.lines.map trim

instance (first second : Text) : Decidable (AlikeLines first second) :=
  inferInstanceAs (Decidable (first.lines.map trim = second.lines.map trim))

/-- What is seen of lines does not depend on their blank ends. -/
def IgnoresEnds {α : Type} (see : List Text → α) : Prop :=
  ∀ lines : List Text, see (lines.map trim) = see lines

theorem IgnoresEnds.congr {α : Type} {see : List Text → α} (ignores : IgnoresEnds see)
    {first second : Text} (alike : AlikeLines first second) :
    see first.lines = see second.lines := by
  rw [← ignores first.lines, alike, ignores second.lines]

private theorem ignoresEnds_any {condition : Text → Bool}
    (trimmed : ∀ line, condition line.trim = condition line) :
    IgnoresEnds fun lines => lines.any condition :=
  any_map_of_same trimmed

theorem alikeLines_withReturns (content : Text) :
    AlikeLines content.withReturns content := by
  rw [AlikeLines, lines_withReturns, map_trim_returned]

/-! ## Blank lines -/

private theorem ignoresEnds_all_isBlank : IgnoresEnds fun lines => lines.all isBlank := by
  intro lines
  simp [List.all_map, Function.comp_def]

private theorem isBlank_congr {first second : Text} (alike : AlikeLines first second) :
    isBlank first = isBlank second := by
  rw [isBlank_eq_all_lines, isBlank_eq_all_lines]
  exact ignoresEnds_all_isBlank.congr alike

/-! ## Summaries -/

private theorem ignoresEnds_firstFilled? (number : Nat) : IgnoresEnds (firstFilled? number) := by
  intro lines
  induction lines generalizing number with
  | nil => rfl
  | cons line lines induction =>
      rw [List.map_cons, firstFilled?, firstFilled?, isBlank_trim, trim_trim, induction]

private theorem ignoresEnds_hasQuote : IgnoresEnds hasQuote :=
  ignoresEnds_any fun line => by rw [trim_trim]

private theorem ignoresEnds_sectionTitles : IgnoresEnds sectionTitles := by
  intro lines
  simp [sectionTitles, List.filter_map, Function.comp_def]

private theorem llmsTxt_congr {first second : Text} (alike : AlikeLines first second) :
    llmsTxt first = llmsTxt second := by
  simp only [llmsTxt, (ignoresEnds_firstFilled? 1).congr alike, ignoresEnds_hasQuote.congr alike,
    ignoresEnds_sectionTitles.congr alike]

private theorem llmTxt_congr {first second : Text} (alike : AlikeLines first second) :
    llmTxt first = llmTxt second := by
  simp only [llmTxt, (ignoresEnds_firstFilled? 1).congr alike, ignoresEnds_hasQuote.congr alike]

/-! ## Sections -/

private theorem ignoresEnds_hasSection (name : String) : IgnoresEnds (hasSection name) :=
  hasSection_map normal_trim name

private theorem ignoresEnds_any_sectionLines (name : String) (condition : Text → Bool)
    (trimmed : ∀ line, condition line.trim = condition line) :
    IgnoresEnds fun lines => (sectionLines name lines).any condition :=
  fun lines => any_sectionLines_map normal_trim name lines trimmed

private theorem AlikeLines.alikeSections {first second : Text} (alike : AlikeLines first second) :
    AlikeSections first second where
  blank := isBlank_congr alike
  named name := (ignoresEnds_hasSection name).congr alike
  found name condition trimmed :=
    (ignoresEnds_any_sectionLines name condition trimmed).congr alike

/-! ## Questions and answers -/

private theorem ignoresEnds_linesWith (condition : Text → Bool)
    (trimmed : ∀ line, condition line.trim = condition line) (number : Nat) :
    IgnoresEnds (linesWith condition number) := by
  intro lines
  induction lines generalizing number with
  | nil => rfl
  | cons line lines induction =>
      rw [List.map_cons, linesWith, linesWith, trimmed, induction]

private theorem ignoresEnds_any_isTopic : IgnoresEnds fun lines => lines.any isTopic :=
  ignoresEnds_any fun line => by simp [isTopic]

private theorem faqAiTxt_congr {first second : Text} (alike : AlikeLines first second) :
    faqAiTxt first = faqAiTxt second := by
  have questions := (ignoresEnds_linesWith isQuestion (by simp [isQuestion]) 1).congr alike
  have answers := (ignoresEnds_linesWith isAnswer (by simp [isAnswer]) 1).congr alike
  have topics := ignoresEnds_any_isTopic.congr alike
  simp only [faqAiTxt, isBlank_congr alike, questions, answers, topics]

/-! ## Vocabularies -/

/-- Words that can be looked for line by line: they have no blank characters and no sigmas. -/
def ArePlain (words : List String) : Prop :=
  ∀ word ∈ words, SigmaFree word.toList ∧ Inked word.toList

instance (words : List String) : Decidable (ArePlain words) :=
  inferInstanceAs (Decidable (∀ word ∈ words, SigmaFree word.toList ∧ Inked word.toList))

private theorem vocabulary_congr {words : List String} (plain : ArePlain words) (message : String)
    {first second : Text} (alike : AlikeLines first second) :
    vocabulary words message first = vocabulary words message second := by
  have holds_eq : ∀ word ∈ words,
      first.lower.holds word.toList = second.lower.holds word.toList := by
    intro word member
    obtain ⟨free, inked⟩ := plain word member
    rw [Bool.eq_iff_iff, holds_lower_iff free inked, holds_lower_iff free inked, alike]
  have any_eq : (words.any fun word => first.lower.holds word.toList) =
      words.any fun word => second.lower.holds word.toList := by
    rw [Bool.eq_iff_iff, List.any_eq_true, List.any_eq_true]
    refine exists_congr fun word => and_congr_right fun member => ?_
    rw [holds_eq word member]
  simp only [vocabulary, isBlank_congr alike, any_eq]

/-! ## All kinds -/

/-- Apart from web pages, texts with as many lines that are the same up to blank ends have the same
findings.  In particular a carriage return in front of each line feed changes nothing. -/
theorem check_of_alikeLines {kind : TextKind} (lineOriented : kind ≠ .llmsHtml) :
    (∀ first second : Text, AlikeLines first second → kind.check first = kind.check second) ∧
      ∀ content : Text, kind.check content.withReturns = kind.check content := by
  have congr {first second : Text} (alike : AlikeLines first second) :
      kind.check first = kind.check second := by
    cases kind with
    | llmsTxt => exact llmsTxt_congr alike
    | llmTxt => exact llmTxt_congr alike
    | llmsHtml => exact absurd rfl lineOriented
    | aiTxt => exact alike.alikeSections.aiTxt_eq
    | brandTxt => exact alike.alikeSections.brandTxt_eq
    | faqAiTxt => exact faqAiTxt_congr alike
    | developerAiTxt => exact vocabulary_congr (by decide) _ alike
    | robotsAiTxt => exact vocabulary_congr (by decide) _ alike
  exact ⟨fun first second => congr, fun content => congr (alikeLines_withReturns content)⟩

/-- A question and its answer may be indented and may end in any blank characters. -/
theorem check_of_indentedQuestion :
    let plain : Text := "Q: Why?\nA: So.".toList
    let indented : Text := "\t Q: Why?\u2028\n\u3000A: So.\x1c".toList
    TextKind.faqAiTxt ≠ .llmsHtml ∧ AlikeLines plain indented ∧
      TextKind.faqAiTxt.check plain = TextKind.faqAiTxt.check indented ∧
      TextKind.faqAiTxt.check plain.withReturns = TextKind.faqAiTxt.check plain := by
  intro plain indented
  have lineOriented : TextKind.faqAiTxt ≠ .llmsHtml := by decide
  have alike : AlikeLines plain indented := by decide +kernel
  obtain ⟨ends, returns⟩ := check_of_alikeLines lineOriented
  exact ⟨lineOriented, alike, ends plain indented alike, returns plain⟩

end Check
end DiscoveryFiles
