import DiscoveryFiles.Proofs.Check.Pairing
import DiscoveryFiles.Proofs.Check.TextKind
import DiscoveryFiles.Proofs.Service.Validation

/-!
# What the issues of a text are about

A file that is blank has one error.  In any other file an issue is about the whole file, about the
first line that is not blank or about a question, and the line that it names is that one.
-/

namespace DiscoveryFiles
namespace Check

open Text

variable {content : Text}

/-! ## The first filled line -/

/-- The number of the first line that is not blank, counted from one. -/
def IsFirstFilled (lines : List Text) (number : Nat) : Prop :=
  ∃ front line rest, lines = front ++ line :: rest ∧ (∀ blank ∈ front, AllBlank blank) ∧
    ¬ AllBlank line ∧ number = front.length + 1

private theorem firstFilled?_eq_none_iff {number : Nat} {lines : List Text} :
    firstFilled? number lines = none ↔ ∀ line ∈ lines, isBlank line = true := by
  induction lines generalizing number with
  | nil => simp [firstFilled?]
  | cons line lines induction =>
      rw [firstFilled?, List.forall_mem_cons]
      cases isBlank line <;> simp [induction]

/-- The line that is found stands behind blank lines, where the first line may have any number. -/
theorem exists_of_firstFilled? {number : Nat} {lines : List Text} {found : Nat × Text}
    (filled : firstFilled? number lines = some found) :
    ∃ front line rest, lines = front ++ line :: rest ∧ (∀ blank ∈ front, AllBlank blank) ∧
      ¬ AllBlank line ∧ found.1 = front.length + number := by
  induction lines generalizing number with
  | nil => cases filled
  | cons line lines induction =>
      rw [firstFilled?] at filled
      split at filled
      next blank =>
        obtain ⟨front, first, rest, rfl, blanks, inked, place⟩ := induction filled
        refine ⟨line :: front, first, rest, rfl, ?_, inked, by rw [place, List.length_cons]; omega⟩
        exact List.forall_mem_cons.mpr ⟨isBlank_iff.mp blank, blanks⟩
      next inked =>
        obtain rfl := Option.some.inj filled
        exact ⟨[], line, lines, rfl, by simp, isBlank_iff.not.mp inked, (Nat.zero_add _).symm⟩

/-! ## Issues of files that are not blank -/

/-- The texts of the errors about the first line of a summary. -/
def headingMessages : List String :=
  ["H1 heading MUST contain text after the \"# \" prefix",
    "File MUST begin with a Markdown H1 heading (# Title)",
    "File MUST begin with a Markdown H1 heading (# Page Title)"]

/-- What an error can be about in a file that is not blank. -/
inductive ErrorIn (kind : TextKind) (content : Text) : Issue → Prop where
  /-- The whole file. -/
  | whole {message : String} (other : message ∉ emptyMessage :: headingMessages) :
      ErrorIn kind content ⟨message, none⟩
  /-- The first line of a summary that is not blank. -/
  | heading {message : String} {number : Nat} (summary : kind = .llmsTxt ∨ kind = .llmTxt)
      (known : message ∈ headingMessages) (first : IsFirstFilled content.lines number) :
      ErrorIn kind content ⟨message, some number⟩
  /-- A question. -/
  | question {number : Nat} (questions : kind = .faqAiTxt)
      (asked : IsLineWith isQuestion content.lines number) :
      ErrorIn kind content
        ⟨"Question at line " ++ toString number ++ " has no corresponding answer (A:)", some number⟩

/-- A warning is about a whole file that is not blank. -/
def IsOverall (issue : Issue) : Prop :=
  issue.line = none ∧ issue.message ≠ emptyMessage

@[simp]
theorem errorIn_whole_iff {kind : TextKind} {message : String} :
    ErrorIn kind content ⟨message, none⟩ ↔ message ∉ emptyMessage :: headingMessages := by
  constructor
  · rintro ⟨⟩
    assumption
  · exact .whole

private theorem ErrorIn.message_ne {kind : TextKind} {issue : Issue}
    (error : ErrorIn kind content issue) :
    issue.message ≠ emptyMessage := by
  cases error with
  | whole other => exact fun same => other (same ▸ List.mem_cons_self)
  | heading summary known first => exact ne_of_mem_of_not_mem known (by decide)
  | question questions asked =>
      intro same
      have first := congrArg (·.toList.head?) same
      simp [emptyMessage] at first

section Inked

variable (inked : isBlank content = false)

include inked

private theorem exists_firstFilled? : ∃ found, firstFilled? 1 content.lines = some found := by
  rw [← Option.isSome_iff_exists, ← Option.ne_none_iff_isSome, ne_eq, firstFilled?_eq_none_iff,
    ← List.all_eq_true, ← isBlank_eq_all_lines, inked]
  exact Bool.false_ne_true

private theorem every_llmsTxt : (llmsTxt content).Every (ErrorIn .llmsTxt content) IsOverall := by
  obtain ⟨found, filled⟩ := exists_firstFilled? inked
  have heading {message : String} (known : message ∈ headingMessages) :
      ErrorIn .llmsTxt content ⟨message, some found.1⟩ :=
    .heading (.inl rfl) known (exists_of_firstFilled? filled)
  simp only [llmsTxt, filled, Findings.every_append]
  refine ⟨⟨?_, ?_⟩, ?_⟩
  · rw [headingFindings]
    split
    · exact Findings.every_errorAt.mpr (heading (by simp [headingMessages]))
    · split
      · exact Findings.every_none
      · exact Findings.every_errorAt.mpr (heading (by simp [headingMessages]))
  · simp [emptyMessage, headingMessages]
  · simp [sectionFindings, recommendedSections, IsOverall, emptyMessage]

private theorem every_llmTxt : (llmTxt content).Every (ErrorIn .llmTxt content) IsOverall := by
  obtain ⟨found, filled⟩ := exists_firstFilled? inked
  have heading {message : String} (known : message ∈ headingMessages) :
      ErrorIn .llmTxt content ⟨message, some found.1⟩ :=
    .heading (.inr rfl) known (exists_of_firstFilled? filled)
  simp only [llmTxt, filled, Findings.every_append, Findings.every_require]
  exact ⟨.inr (Findings.every_errorAt.mpr (heading (by simp [headingMessages]))),
    .inr (by simp [IsOverall, emptyMessage])⟩

private theorem every_aiTxt : (aiTxt content).Every (ErrorIn .aiTxt content) IsOverall := by
  rw [aiTxt, inked, if_neg Bool.false_ne_true]
  simp only [Findings.every_append, identityFindings, listFindings]
  refine ⟨⟨?_, ?_⟩, ?_⟩ <;> split <;> simp [fieldFindings, emptyMessage, headingMessages]

private theorem every_brandTxt :
    (brandTxt content).Every (ErrorIn .brandTxt content) IsOverall := by
  rw [brandTxt, inked, if_neg Bool.false_ne_true, Findings.every_all, List.forall_mem_map]
  intro wanted member
  rw [nameFindings]
  simp only [nameSections, List.mem_cons, List.not_mem_nil, or_false] at member
  split
  · rcases member with rfl | rfl | rfl <;> simp [emptyMessage, headingMessages]
  · rcases member with rfl | rfl | rfl <;> simp [emptyMessage, headingMessages]

private theorem every_faqAiTxt :
    (faqAiTxt content).Every (ErrorIn .faqAiTxt content) IsOverall := by
  rw [faqAiTxt, inked, if_neg Bool.false_ne_true]
  dsimp only
  split
  · simp [emptyMessage, headingMessages]
  · rw [Findings.every_append, Findings.every_all, List.forall_mem_map]
    refine ⟨fun question member => ?_, by simp [IsOverall, emptyMessage]⟩
    have asked := (unanswered_sublist _ _).subset member
    exact Findings.every_errorAt.mpr (.question rfl (mem_linesWith_iff.mp asked))

private theorem every_vocabulary {kind : TextKind} {words : List String} {message : String}
    (other : message ≠ emptyMessage) :
    (vocabulary words message content).Every (ErrorIn kind content) IsOverall := by
  rw [vocabulary, inked, if_neg Bool.false_ne_true]
  exact Findings.every_require.mpr (.inr (Findings.every_warning.mpr ⟨rfl, other⟩))

end Inked

private theorem every_llmsHtml :
    (llmsHtml content).Every (ErrorIn .llmsHtml content) IsOverall := by
  rw [llmsHtml]
  split <;> simp [emptyMessage, headingMessages, IsOverall]

/-! ## Issues of all files -/

private theorem check_of_isBlank {kind : TextKind} (noPage : kind ≠ .llmsHtml)
    (blank : isBlank content = true) : kind.check content = .error emptyMessage := by
  have unfilled : firstFilled? 1 content.lines = none := by
    rw [firstFilled?_eq_none_iff, ← List.all_eq_true, ← isBlank_eq_all_lines, blank]
  cases kind with
  | llmsTxt => simp only [TextKind.check, llmsTxt, unfilled]
  | llmTxt => simp only [TextKind.check, llmTxt, unfilled]
  | llmsHtml => exact absurd rfl noPage
  | aiTxt => exact if_pos blank
  | brandTxt => exact if_pos blank
  | faqAiTxt => exact if_pos blank
  | developerAiTxt => exact if_pos blank
  | robotsAiTxt => exact if_pos blank

private theorem every_check {kind : TextKind}
    (filled : kind ≠ .llmsHtml → isBlank content = false) :
    (kind.check content).Every (ErrorIn kind content) IsOverall := by
  cases kind with
  | llmsTxt => exact every_llmsTxt (filled nofun)
  | llmTxt => exact every_llmTxt (filled nofun)
  | llmsHtml => exact every_llmsHtml
  | aiTxt => exact every_aiTxt (filled nofun)
  | brandTxt => exact every_brandTxt (filled nofun)
  | faqAiTxt => exact every_faqAiTxt (filled nofun)
  | developerAiTxt => exact every_vocabulary (filled nofun) (by decide)
  | robotsAiTxt => exact every_vocabulary (filled nofun) (by decide)

/-- All checks but the one for web pages tell alike whether a file is empty: a blank file has the
one error that says so, and no issue of any other file does. -/
theorem check_tells_emptiness {kind : TextKind} (noPage : kind ≠ .llmsHtml) (content : Text) :
    (AllBlank content → kind.check content = ⟨[⟨"File is empty", none⟩], []⟩) ∧
      (¬ AllBlank content →
        ∀ issue ∈ (kind.check content).errors ++ (kind.check content).warnings,
          issue.message ≠ "File is empty") := by
  rw [← isBlank_iff]
  refine ⟨check_of_isBlank noPage, fun inked issue member => ?_⟩
  have filled : kind ≠ .llmsHtml → isBlank content = false := fun _ => Bool.eq_false_iff.mpr inked
  obtain ⟨errors, warnings⟩ := every_check filled
  rcases List.mem_append.mp member with error | warning
  · exact (errors issue error).message_ne
  · exact (warnings issue warning).2

/-- Blank characters of all kinds are told from a mark without width. -/
theorem check_tells_emptiness_of_marks :
    let blank : Text := "\u3000\n\x1c\r\n\u2028".toList
    let mark : Text := "\u3000\n\u200b".toList
    TextKind.llmTxt ≠ .llmsHtml ∧
      (AllBlank blank ∧ TextKind.llmTxt.check blank = ⟨[⟨"File is empty", none⟩], []⟩) ∧
      (¬ AllBlank mark ∧
        ∀ issue ∈ (TextKind.llmTxt.check mark).errors ++ (TextKind.llmTxt.check mark).warnings,
          issue.message ≠ "File is empty") := by
  intro blank mark
  have noPage : TextKind.llmTxt ≠ .llmsHtml := by decide
  have blanks : AllBlank blank := isBlank_iff.mp (by decide +kernel)
  have marked : ¬ AllBlank mark := isBlank_iff.not.mp (by decide +kernel)
  exact ⟨noPage, ⟨blanks, (check_tells_emptiness noPage blank).1 blanks⟩, marked,
    (check_tells_emptiness noPage mark).2 marked⟩

/-! ## Lines of issues -/

theorem IsFirstFilled.bounds {lines : List Text} {number : Nat}
    (first : IsFirstFilled lines number) : 1 ≤ number ∧ number ≤ lines.length := by
  obtain ⟨front, line, rest, rfl, -, -, rfl⟩ := first
  rw [List.length_append, List.length_cons]
  omega

theorem IsLineWith.bounds {condition : Text → Bool} {lines : List Text} {number : Nat}
    (here : IsLineWith condition lines number) : 1 ≤ number ∧ number ≤ lines.length := by
  have := mem_linesWith_bounds (mem_linesWith_iff.mpr here)
  omega

section Line

variable {kind : TextKind} {issue : Issue}

/-- An error with a line is about the heading of a summary or about a question. -/
theorem ErrorIn.line_cases {number : Nat} (error : ErrorIn kind content issue)
    (placed : issue.line = some number) :
    ((kind = .llmsTxt ∨ kind = .llmTxt) ∧ issue.message ∈ headingMessages ∧
        IsFirstFilled content.lines number) ∨
      (kind = .faqAiTxt ∧ IsLineWith isQuestion content.lines number) := by
  cases error with
  | whole other => cases placed
  | heading summary known first =>
      obtain rfl := Option.some.inj placed
      exact .inl ⟨summary, known, first⟩
  | question questions asked =>
      obtain rfl := Option.some.inj placed
      exact .inr ⟨questions, asked⟩

/-- An error about the heading of a summary has a line. -/
theorem ErrorIn.exists_line (error : ErrorIn kind content issue)
    (summary : kind = .llmsTxt ∨ kind = .llmTxt) (known : issue.message ∈ headingMessages) :
    ∃ number, issue.line = some number ∧ IsFirstFilled content.lines number := by
  cases error with
  | whole other => exact absurd (List.mem_cons_of_mem _ known) other
  | heading summary known first => exact ⟨_, rfl, first⟩
  | question questions asked =>
      rw [questions] at summary
      simp at summary

/-- An issue whose line is none of those below one is accepted. -/
theorem of?_eq_some (counted : ∀ number, issue.line = some number → 1 ≤ number) :
    Issue.of? issue.message (issue.line.map Int.ofNat) = some issue := by
  obtain ⟨message, _ | number⟩ := issue
  · rfl
  · have positive : ¬ (number : Int) < 1 := by
      have := counted number rfl
      omega
    simp [Issue.of?, positive]

/-- The errors of a file, whether or not it is blank, and the lines of its warnings. -/
theorem issues_of_check (kind : TextKind) (content : Text) :
    (kind.check content).Every
      (fun issue => issue = ⟨emptyMessage, none⟩ ∨ ErrorIn kind content issue)
      (fun issue => issue.line = none) := by
  by_cases filled : kind ≠ .llmsHtml → isBlank content = false
  · obtain ⟨errors, warnings⟩ := every_check filled
    exact ⟨fun issue member => .inr (errors issue member),
      fun issue member => (warnings issue member).1⟩
  · obtain ⟨noPage, inked⟩ := Classical.not_imp.mp filled
    rw [check_of_isBlank noPage (Bool.not_eq_false _ ▸ inked), Findings.every_error]
    exact .inl rfl

section Placed

variable {number : Nat}
  (member : issue ∈ (kind.check content).errors ++ (kind.check content).warnings)
  (placed : issue.line = some number)

include member placed

/-- An issue with a line is an error of a file that is not blank. -/
theorem error_of_line : issue ∈ (kind.check content).errors ∧ ErrorIn kind content issue := by
  obtain ⟨errors, warnings⟩ := issues_of_check kind content
  rcases List.mem_append.mp member with error | warning
  · rcases errors issue error with rfl | inside
    · cases placed
    · exact ⟨error, inside⟩
  · rw [warnings issue warning] at placed
    cases placed

private theorem line_bounds : 1 ≤ number ∧ number ≤ content.lines.length := by
  rcases (error_of_line member placed).2.line_cases placed with ⟨-, -, first⟩ | ⟨-, asked⟩
  · exact first.bounds
  · exact asked.bounds

end Placed

end Line

private theorem answer_validateContent_textKind (tree : FileTree) (file : String) (content : Text)
    (kind : TextKind) (state : ServiceState) :
    Service.answer (Service.validateContent tree file content (some kind.kind.tag)) state =
      .ok ⟨file, kind.kind.tag, kind.check content⟩ := by
  have tag_eq : Service.tagFor? file (some kind.kind.tag) = some kind.kind.tag := by
    cases kind <;> rfl
  simp only [Service.answer_validateContent, tag_eq, Service.findingsForTag, Kind.ofTag?_tag,
    findingsFor_textKind, Service.answer_pure]
  rfl

/-- Checking text always has a result, in which the lines of all issues are lines of the text.  The
errors about the heading of a summary name the first line that is not blank, and any other issue
with a line is an error about a question in that line. -/
theorem check_names_lines (kind : TextKind) (content : Text) :
    (∀ (tree : FileTree) (file : String) (state : ServiceState),
        Service.answer (Service.validateContent tree file content (some kind.kind.tag)) state =
          .ok ⟨file, kind.kind.tag, kind.check content⟩) ∧
      (∀ issue ∈ (kind.check content).errors ++ (kind.check content).warnings,
        Issue.of? issue.message (issue.line.map Int.ofNat) = some issue ∧
          ∀ number, issue.line = some number → 1 ≤ number ∧ number ≤ content.lines.length) ∧
      (∀ issue ∈ (kind.check content).errors, kind = .llmsTxt ∨ kind = .llmTxt →
        issue.message ∈ headingMessages →
          ∃ number, issue.line = some number ∧ IsFirstFilled content.lines number) ∧
      ∀ issue ∈ (kind.check content).errors ++ (kind.check content).warnings,
        ∀ number, issue.line = some number →
          issue ∈ (kind.check content).errors ∧
            ((kind = .llmsTxt ∨ kind = .llmTxt) ∧ issue.message ∈ headingMessages ∨
              kind = .faqAiTxt ∧ IsLineWith isQuestion content.lines number) := by
  refine ⟨fun tree file state => answer_validateContent_textKind tree file content kind state,
    fun issue member => ?_, fun issue member summary known => ?_,
    fun issue member number placed => ?_⟩
  · have bounds : ∀ number, issue.line = some number → 1 ≤ number ∧ number ≤ content.lines.length :=
      fun _ placed => line_bounds member placed
    exact ⟨of?_eq_some fun number placed => (bounds number placed).1, bounds⟩
  · rcases (issues_of_check kind content).1 issue member with rfl | error
    · exact absurd known (by decide)
    · exact error.exists_line summary known
  · obtain ⟨error, inside⟩ := error_of_line member placed
    rcases inside.line_cases placed with ⟨summary, known, -⟩ | questions
    · exact ⟨error, .inl ⟨summary, known⟩⟩
    · exact ⟨error, .inr questions⟩

/-- Blank lines in front count when lines are numbered. -/
theorem check_names_lines_of_blankFront :
    let summary : Text := "\n \n# ".toList
    let untitled : Issue := ⟨"H1 heading MUST contain text after the \"# \" prefix", some 3⟩
    let dialogue : Text := "\nQ: A?\n**Q: B?**\nA: B".toList
    let unpaired : Issue := ⟨"Question at line 2 has no corresponding answer (A:)", some 2⟩
    untitled ∈ (TextKind.llmsTxt.check summary).errors ∧
      (∃ number, untitled.line = some number ∧ IsFirstFilled summary.lines number) ∧
      unpaired ∈ (TextKind.faqAiTxt.check dialogue).errors ∧
      2 ≤ dialogue.lines.length ∧ IsLineWith isQuestion dialogue.lines 2 := by
  intro summary untitled dialogue unpaired
  have untitled_error : untitled ∈ (TextKind.llmsTxt.check summary).errors := by decide +kernel
  have unpaired_error : unpaired ∈ (TextKind.faqAiTxt.check dialogue).errors := by decide +kernel
  have listed := List.mem_append_left (TextKind.faqAiTxt.check dialogue).warnings unpaired_error
  obtain ⟨-, -, headings, -⟩ := check_names_lines .llmsTxt summary
  obtain ⟨-, lines, -, placed⟩ := check_names_lines .faqAiTxt dialogue
  have named := headings untitled untitled_error (.inl rfl) (by decide)
  have asked : IsLineWith isQuestion dialogue.lines 2 := by
    rcases (placed unpaired listed 2 rfl).2 with ⟨summarized, -⟩ | ⟨-, asked⟩
    · exact absurd summarized (by decide)
    · exact asked
  exact ⟨untitled_error, named, unpaired_error, ((lines unpaired listed).2 2 rfl).2, asked⟩

end Check
end DiscoveryFiles
