import DiscoveryFiles.Proofs.Check.Sections
import DiscoveryFiles.Proofs.Check.TextKind
import DiscoveryFiles.Proofs.Text.LetterCase

/-!
# Case of letters in files

The checks of text compare words only in lower case, and all other marks that they look for have no
letters.  Only the marks of questions and answers are told apart by their case, and the tags of web
pages are left out here.
-/

namespace DiscoveryFiles
namespace Check

open Text

/-! ## Lines -/

@[simp]
theorem isBlank_foldCase (text : Text) : isBlank text.foldCase = isBlank text := by
  rw [isBlank, isBlank, trim_foldCase, foldCase, List.isEmpty_map]

@[simp]
theorem normal_foldCase (line : Text) : normal line.foldCase = normal line := by
  rw [normal, trim_foldCase, lower_foldCase, normal]

/-- Whether a trimmed line begins with a mark that has no letters. -/
theorem begins_trim_foldCase {mark : String} (letterless : Letterless mark.toList) (line : Text) :
    line.foldCase.trim.begins mark = line.trim.begins mark := by
  rw [trim_foldCase, begins_foldCase letterless]

/-! ## Summaries -/

private theorem firstFilled?_map_foldCase (number : Nat) (lines : List Text) :
    firstFilled? number (lines.map foldCase) =
      (firstFilled? number lines).map fun entry => (entry.1, entry.2.foldCase) := by
  induction lines generalizing number with
  | nil => rfl
  | cons line lines induction =>
      rw [List.map_cons, firstFilled?, firstFilled?, isBlank_foldCase, induction, trim_foldCase]
      split <;> rfl

private theorem hasQuote_map_foldCase (lines : List Text) :
    hasQuote (lines.map foldCase) = hasQuote lines :=
  any_map_of_same (begins_trim_foldCase (by decide)) lines

private theorem sectionTitles_map_foldCase (lines : List Text) :
    sectionTitles (lines.map foldCase) = sectionTitles lines := by
  have heading (line : Text) : line.foldCase.trim.begins "## " = line.trim.begins "## " :=
    begins_trim_foldCase (by decide) line
  have title (line : Text) : lower (line.foldCase.trim.drop 3) = lower (line.trim.drop 3) := by
    rw [trim_foldCase, foldCase, ← List.map_drop, ← foldCase, lower_foldCase]
  simp only [sectionTitles, List.filter_map, List.map_map, Function.comp_def, heading, title]

private theorem headingFindings_foldCase (number : Nat) (line : Text) :
    headingFindings number line.foldCase = headingFindings number line := by
  have bare_iff : line.foldCase = ['#'] ↔ line = ['#'] := foldCase_eq_iff (by decide)
  have heading : line.foldCase.begins "# " = line.begins "# " := begins_foldCase (by decide) line
  simp only [headingFindings, bare_iff, heading]

private theorem llmsTxt_foldCase (content : Text) : llmsTxt content.foldCase = llmsTxt content := by
  simp only [llmsTxt, lines_foldCase, firstFilled?_map_foldCase, hasQuote_map_foldCase,
    sectionTitles_map_foldCase]
  cases firstFilled? 1 content.lines with
  | none => rfl
  | some entry => simp only [Option.map_some, headingFindings_foldCase]

private theorem llmTxt_foldCase (content : Text) : llmTxt content.foldCase = llmTxt content := by
  have heading (line : Text) : line.foldCase.begins "# " = line.begins "# " :=
    begins_foldCase (by decide) line
  simp only [llmTxt, lines_foldCase, firstFilled?_map_foldCase, hasQuote_map_foldCase]
  cases firstFilled? 1 content.lines with
  | none => rfl
  | some entry => simp only [Option.map_some, heading]

/-! ## Sections -/

private theorem aiTxt_foldCase (content : Text) : aiTxt content.foldCase = aiTxt content := by
  have field (words : String) :
      (sectionLines "identity" (content.lines.map foldCase)).any
          (fun line => (normal line).begins words) =
        (sectionLines "identity" content.lines).any fun line => (normal line).begins words :=
    any_sectionLines_map normal_foldCase "identity" content.lines (by simp)
  have item (name : String) :
      (sectionLines name (content.lines.map foldCase)).any (·.trim.begins "- ") =
        (sectionLines name content.lines).any (·.trim.begins "- ") :=
    any_sectionLines_map normal_foldCase name content.lines (begins_trim_foldCase (by decide))
  simp only [aiTxt, identityFindings, fieldFindings, listFindings, isBlank_foldCase,
    lines_foldCase, hasSection_map normal_foldCase, field, item]

private theorem brandTxt_foldCase (content : Text) :
    brandTxt content.foldCase = brandTxt content := by
  have entry (line : Text) : isEntry line.foldCase = isEntry line := by
    rw [isEntry, isEntry, isBlank_foldCase, begins_trim_foldCase (by decide)]
  have names (wanted : NameSection) : nameFindings (content.lines.map foldCase) wanted =
      nameFindings content.lines wanted := by
    rw [nameFindings, nameFindings, hasSection_map normal_foldCase,
      any_sectionLines_map normal_foldCase wanted.name content.lines entry]
  simp only [brandTxt, isBlank_foldCase, lines_foldCase, funext names]

/-! ## Vocabularies -/

private theorem vocabulary_foldCase (words : List String) (message : String) (content : Text) :
    vocabulary words message content.foldCase = vocabulary words message content := by
  simp only [vocabulary, isBlank_foldCase, lower_foldCase]

/-! ## All kinds -/

private theorem check_foldCase {kind : TextKind} (noPage : kind ≠ .llmsHtml)
    (noQuestions : kind ≠ .faqAiTxt) (content : Text) :
    kind.check content.foldCase = kind.check content := by
  cases kind with
  | llmsTxt => exact llmsTxt_foldCase content
  | llmTxt => exact llmTxt_foldCase content
  | llmsHtml => exact absurd rfl noPage
  | aiTxt => exact aiTxt_foldCase content
  | brandTxt => exact brandTxt_foldCase content
  | faqAiTxt => exact absurd rfl noQuestions
  | developerAiTxt => exact vocabulary_foldCase _ _ content
  | robotsAiTxt => exact vocabulary_foldCase _ _ content

/-- Apart from web pages and from questions and answers, texts that are the same up to the case of
ASCII letters have the same findings. -/
theorem check_of_alikeLetters {kind : TextKind} (noPage : kind ≠ .llmsHtml)
    (noQuestions : kind ≠ .faqAiTxt) {first second : Text} (alike : AlikeLetters first second) :
    kind.check first = kind.check second := by
  calc
    kind.check first = kind.check first.foldCase := (check_foldCase noPage noQuestions first).symm
    _ = kind.check second.foldCase := by rw [alike]
    _ = kind.check second := check_foldCase noPage noQuestions second

/-- The name of a section and that of a field may be written in any case. -/
theorem check_of_capitalSection :
    let small : Text := "[identity]\nname: Σ\nurl: https://a.example".toList
    let capital : Text := "[IDENTITY]\nName: Σ\nURL: HTTPS://A.example".toList
    TextKind.aiTxt ≠ .llmsHtml ∧ TextKind.aiTxt ≠ .faqAiTxt ∧ AlikeLetters small capital ∧
      TextKind.aiTxt.check small = TextKind.aiTxt.check capital := by
  intro small capital
  have noPage : TextKind.aiTxt ≠ .llmsHtml := by decide
  have noQuestions : TextKind.aiTxt ≠ .faqAiTxt := by decide
  have alike : AlikeLetters small capital := by decide +kernel
  exact ⟨noPage, noQuestions, alike, check_of_alikeLetters noPage noQuestions alike⟩

end Check
end DiscoveryFiles
