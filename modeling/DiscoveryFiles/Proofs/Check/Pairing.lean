import DiscoveryFiles.Proofs.Check.Questions
import DiscoveryFiles.Proofs.Text.Lines
import DiscoveryFiles.Proofs.Text.Part

/-!
# Pairing questions and answers in one pass

A walk over the lines, which remembers no more than the last unanswered question, finds the same
questions as the search for an answer between each question and the next.
-/

namespace DiscoveryFiles
namespace Check

open Text

/-! ## The walk -/

/-- What a walk over lines has found out. -/
structure Pairing where
  /-- The last question, if it has no answer yet. -/
  pending : Option Nat
  /-- The questions before it that have no answer. -/
  reported : List Nat

namespace Pairing

/-- A question takes the place of the last one, which is reported if it is still unanswered.  An
answer belongs to the last question. -/
def step (pairing : Pairing) (line : Text × Nat) : Pairing :=
  if isQuestion line.1 then ⟨some line.2, pairing.reported ++ pairing.pending.toList⟩
  else if isAnswer line.1 then { pairing with pending := none }
  else pairing

/-- Walk over lines, the first of which has the given number. -/
def walk (pairing : Pairing) (number : Nat) (lines : List Text) : Pairing :=
  (lines.zipIdx number).foldl step pairing

/-- The questions that have no answer when a walk ends. -/
def unpaired (pairing : Pairing) : List Nat :=
  pairing.reported ++ pairing.pending.toList

end Pairing

/-- The questions that a walk over all lines finds unanswered. -/
def unpairedQuestions (lines : List Text) : List Nat :=
  (Pairing.walk ⟨none, []⟩ 1 lines).unpaired

/-! ## The search -/

/-- No line is both a question and an answer. -/
theorem isAnswer_of_isQuestion {line : Text} (question : isQuestion line = true) :
    isAnswer line = false := by
  rw [isQuestion, Bool.or_eq_true, begins_iff, begins_iff] at question
  rw [isAnswer]
  rcases question with ⟨rest, trim_eq⟩ | ⟨rest, trim_eq⟩ <;>
    simp [← trim_eq, Text.begins, List.isPrefixOf]

section Search

variable {answers questions : List Nat} {answer question : Nat}

private theorem unanswered_cons :
    unanswered answers (question :: questions) =
      if answers.any fun answer => question < answer && questions.head?.all (answer < ·) then
        unanswered answers questions
      else question :: unanswered answers questions := by
  cases questions with
  | nil => simp [unanswered]
  | cons next questions => simp [unanswered]

/-- An answer that no question stands in front of answers none. -/
theorem unanswered_cons_of_le (before : ∀ question ∈ questions, answer ≤ question) :
    unanswered (answer :: answers) questions = unanswered answers questions := by
  induction questions with
  | nil => rfl
  | cons question questions induction =>
      obtain ⟨here, later⟩ := List.forall_mem_cons.mp before
      have not_behind : decide (question < answer) = false := decide_eq_false (by omega)
      rw [unanswered_cons, unanswered_cons, induction later, List.any_cons, not_behind,
        Bool.false_and, Bool.false_or]

/-- An answer that follows a question answers it if the next question is behind the answer. -/
theorem unanswered_cons_cons_of_lt (behind : question < answer)
    (before : ∀ next ∈ questions, answer < next) :
    unanswered (answer :: answers) (question :: questions) = unanswered answers questions := by
  have next_behind : questions.head?.all (answer < ·) = true := by
    cases questions with
    | nil => rfl
    | cons next questions => exact decide_eq_true (before next List.mem_cons_self)
  rw [unanswered_cons, List.any_cons, next_behind, decide_eq_true behind, Bool.true_and,
    Bool.true_or, if_pos rfl, unanswered_cons_of_le fun next member => (before next member).le]

/-- A question is unanswered if all answers are behind the next question. -/
theorem unanswered_cons_cons_of_le {next : Nat} (later : ∀ answer ∈ answers, next ≤ answer) :
    unanswered answers (question :: next :: questions) =
      question :: unanswered answers (next :: questions) := by
  rw [unanswered_cons, if_neg]
  rw [List.any_eq_true]
  rintro ⟨answer, member, between⟩
  have := later answer member
  simp at between
  omega

theorem unanswered_sublist (answers questions : List Nat) :
    (unanswered answers questions).Sublist questions := by
  induction questions with
  | nil => exact .slnil
  | cons question questions induction =>
      rw [unanswered_cons]
      split
      · exact induction.cons question
      · exact induction.cons_cons question

/-- An answer follows a question, and all later questions are behind the answer. -/
def IsAnswered (answers questions : List Nat) (question : Nat) : Prop :=
  ∃ answer ∈ answers, question < answer ∧ ∀ next ∈ questions, question < next → answer < next

/-- Of questions in order, the first one is answered if an answer stands before the second one. -/
theorem isAnswered_head_iff (answers : List Nat)
    (ordered : (question :: questions).Pairwise (· < ·)) :
    IsAnswered answers (question :: questions) question ↔
      (answers.any fun answer => question < answer && questions.head?.all (answer < ·)) = true := by
  obtain ⟨behind, ordered⟩ := List.pairwise_cons.mp ordered
  simp only [IsAnswered, List.any_eq_true, Bool.and_eq_true, decide_eq_true_eq,
    List.forall_mem_cons, lt_irrefl, false_implies, true_and]
  refine exists_congr fun answer => and_congr_right fun _ => and_congr_right fun _ => ?_
  cases questions with
  | nil => simp
  | cons next questions =>
      -- What stands in front of the second question stands in front of all that follow it.
      have later := (List.pairwise_cons.mp ordered).1
      have first_behind : question < next := behind next List.mem_cons_self
      simp only [List.head?_cons, Option.all_some, decide_eq_true_eq, List.forall_mem_cons,
        first_behind, true_implies, and_iff_left_iff_imp]
      exact fun before other member _ => before.trans (later other member)

/-- In order, those questions are unanswered that no answer follows before a later question. -/
theorem mem_unanswered_iff (ordered : questions.Pairwise (· < ·)) :
    question ∈ unanswered answers questions ↔
      question ∈ questions ∧ ¬ IsAnswered answers questions question := by
  induction questions with
  | nil => simp [unanswered]
  | cons first questions induction =>
      have head_iff := isAnswered_head_iff answers ordered
      obtain ⟨behind, ordered⟩ := List.pairwise_cons.mp ordered
      rw [unanswered_cons]
      rcases eq_or_ne question first with rfl | other
      · have not_later : question ∉ unanswered answers questions := fun member =>
          (behind question ((unanswered_sublist answers questions).subset member)).false
        split
        next answered =>
          exact iff_of_false not_later fun unanswered => unanswered.2 (head_iff.mpr answered)
        next missing =>
          exact iff_of_true List.mem_cons_self ⟨List.mem_cons_self, missing ∘ head_iff.mp⟩
      · have later_iff : question ∈ unanswered answers questions ↔
            question ∈ first :: questions ∧ ¬ IsAnswered answers (first :: questions) question := by
          rw [induction ordered, List.mem_cons, or_iff_right other]
          refine and_congr_right fun member => not_congr ?_
          have first_before : ¬ question < first := (behind question member).not_gt
          simp only [IsAnswered, List.forall_mem_cons, first_before, false_implies, true_and]
        rw [← later_iff]
        split
        · rfl
        · simp [other]

end Search

/-! ## The search in the course of a walk -/

namespace Pairing

/-- The unanswered questions that are known or still to be found from a line on. -/
def outcome (pairing : Pairing) (number : Nat) (lines : List Text) : List Nat :=
  pairing.reported ++ unanswered (linesWith isAnswer number lines)
    (pairing.pending.toList ++ linesWith isQuestion number lines)

section Step

variable {pairing : Pairing} {number : Nat}

/-- What is pending after a line is not behind it. -/
theorem pending_step_lt (before : ∀ question ∈ pairing.pending, question < number)
    (line : Text) : ∀ question ∈ (pairing.step (line, number)).pending, question < number + 1 := by
  intro question pending
  rw [step] at pending
  split at pending
  · obtain rfl := Option.mem_some_iff.mp pending
    exact number.lt_succ_self
  · split at pending
    · cases pending
    · exact (before question pending).trans number.lt_succ_self

/-- A step over a line changes nothing about the outcome. -/
theorem outcome_step (before : ∀ question ∈ pairing.pending, question < number)
    (line : Text) (lines : List Text) :
    (pairing.step (line, number)).outcome (number + 1) lines =
      pairing.outcome number (line :: lines) := by
  have answers_behind : ∀ answer ∈ linesWith isAnswer (number + 1) lines, number < answer :=
    fun _ member => (mem_linesWith_bounds member).1
  have questions_behind : ∀ question ∈ linesWith isQuestion (number + 1) lines, number < question :=
    fun _ member => (mem_linesWith_bounds member).1
  rw [outcome, outcome, linesWith, linesWith]
  generalize linesWith isAnswer (number + 1) lines = answers at answers_behind ⊢
  generalize linesWith isQuestion (number + 1) lines = questions at questions_behind ⊢
  by_cases question : isQuestion line = true
  · have plain : ¬ isAnswer line = true := by simp [isAnswer_of_isQuestion question]
    rw [step, if_pos question, if_pos question, if_neg plain]
    cases pairing.pending with
    | none => simp
    | some pending =>
        -- No answer is left that could still belong to the pending question.
        have passed : unanswered answers (pending :: number :: questions) =
            pending :: unanswered answers (number :: questions) :=
          unanswered_cons_cons_of_le fun answer member => (answers_behind answer member).le
        simp [passed]
  by_cases answer : isAnswer line = true
  · rw [step, if_neg question, if_neg question, if_pos answer, if_pos answer]
    cases pending_eq : pairing.pending with
    | none =>
        simp [unanswered_cons_of_le fun question member => (questions_behind question member).le]
    | some pending =>
        have pending_before : pending < number := before pending pending_eq
        simp [unanswered_cons_cons_of_lt pending_before questions_behind]
  · rw [step, if_neg question, if_neg question, if_neg answer, if_neg answer]

/-- At the end of a walk, the outcome is what is unpaired. -/
theorem unpaired_walk (before : ∀ question ∈ pairing.pending, question < number)
    (lines : List Text) : (pairing.walk number lines).unpaired = pairing.outcome number lines := by
  induction lines generalizing pairing number with
  | nil =>
      rw [walk, List.zipIdx_nil, List.foldl_nil, unpaired, outcome, linesWith, linesWith,
        List.append_nil]
      cases pairing.pending <;> rfl
  | cons line lines induction =>
      rw [walk, List.zipIdx_cons, List.foldl_cons, ← walk,
        induction (pending_step_lt before line), outcome_step before]

end Step

end Pairing

private theorem unpairedQuestions_eq (lines : List Text) :
    unpairedQuestions lines =
      unanswered (linesWith isAnswer 1 lines) (linesWith isQuestion 1 lines) :=
  Pairing.unpaired_walk (by simp) lines

/-! ## Errors -/

/-- The line with a number, where the first line has the number one, meets a condition. -/
def IsLineWith (condition : Text → Bool) (lines : List Text) (number : Nat) : Prop :=
  ∃ line, (line, number) ∈ lines.zipIdx 1 ∧ condition line = true

/-- An answer stands behind a question and in front of all later questions. -/
def HasAnswer (lines : List Text) (question : Nat) : Prop :=
  ∃ answer, IsLineWith isAnswer lines answer ∧ question < answer ∧
    ∀ next, IsLineWith isQuestion lines next → question < next → answer < next

private theorem linesWith_eq_map_filter (condition : Text → Bool) (number : Nat)
    (lines : List Text) :
    linesWith condition number lines =
      ((lines.zipIdx number).filter fun line => condition line.1).map (·.2) := by
  induction lines generalizing number with
  | nil => rfl
  | cons line lines induction =>
      rw [linesWith, List.zipIdx_cons, List.filter_cons, induction]
      split <;> rfl

theorem mem_linesWith_iff {condition : Text → Bool} {lines : List Text} {number : Nat} :
    number ∈ linesWith condition 1 lines ↔ IsLineWith condition lines number := by
  simp [linesWith_eq_map_filter, IsLineWith]

private theorem pairwise_linesWith (condition : Text → Bool) (number : Nat) (lines : List Text) :
    (linesWith condition number lines).Pairwise (· < ·) := by
  rw [linesWith_eq_map_filter]
  refine List.Pairwise.sublist (List.filter_sublist.map _) ?_
  rw [List.zipIdx_map_snd]
  exact List.pairwise_lt_range'

private theorem isBlank_of_isQuestion {line : Text} (question : isQuestion line = true) :
    isBlank line = false := by
  by_contra blank
  rw [isBlank, Bool.not_eq_false, List.isEmpty_iff] at blank
  simp [isQuestion, blank, Text.begins] at question

/-- The errors of a text with questions are those for the unanswered ones. -/
theorem errors_faqAiTxt_eq_flatMap {content : Text}
    (asked : ∃ line ∈ content.lines, isQuestion line = true) :
    (faqAiTxt content).errors =
      (unanswered (linesWith isAnswer 1 content.lines)
        (linesWith isQuestion 1 content.lines)).flatMap fun question =>
          (unansweredFinding question).errors := by
  obtain ⟨line, member, question⟩ := asked
  have inked : isBlank content = false := by
    rw [isBlank_eq_all_lines, List.all_eq_false]
    exact ⟨line, member, by simp [isBlank_of_isQuestion question]⟩
  obtain ⟨index, inside, line_eq⟩ := List.getElem_of_mem member
  have numbered : index + 1 ∈ linesWith isQuestion 1 content.lines :=
    mem_linesWith_iff.mpr ⟨line,
      List.mk_mem_zipIdx_iff_le_and_getElem?_sub.mpr ⟨by omega, by simp [inside, line_eq]⟩,
      question⟩
  rw [faqAiTxt, inked, if_neg Bool.false_ne_true]
  dsimp only
  split
  next nothing => simp [nothing] at numbered
  · have no_error : (Findings.require (content.lines.any isTopic)
        (.warning "File SHOULD organise FAQs into sections using headings")).errors = [] :=
      Findings.errors_require_eq_nil_iff.mpr (.inr rfl)
    rw [Findings.errors_append, no_error, List.append_nil, Findings.errors_all, List.flatMap_map]

/-- In a text with questions, the errors are those for the questions that a walk over the lines
finds unanswered.  They come in the order of the lines, and there is one for each question without
an answer before the next question. -/
theorem errors_faqAiTxt_eq_unpairedQuestions {content : Text}
    (asked : ∃ line ∈ content.lines, isQuestion line = true) :
    (faqAiTxt content).errors = (unpairedQuestions content.lines).map (fun question =>
        ⟨"Question at line " ++ toString question ++ " has no corresponding answer (A:)",
          some question⟩) ∧
      (unpairedQuestions content.lines).Pairwise (· < ·) ∧
      ∀ question, question ∈ unpairedQuestions content.lines ↔
        IsLineWith isQuestion content.lines question ∧ ¬ HasAnswer content.lines question := by
  have ordered := pairwise_linesWith isQuestion 1 content.lines
  rw [unpairedQuestions_eq]
  refine ⟨?_, ordered.sublist (unanswered_sublist _ _), fun question => ?_⟩
  · rw [errors_faqAiTxt_eq_flatMap asked, List.map_eq_flatMap]
    rfl
  · rw [mem_unanswered_iff ordered, mem_linesWith_iff]
    simp only [IsAnswered, HasAnswer, mem_linesWith_iff]

/-- The first and the last of four questions have no answer of their own. -/
theorem errors_faqAiTxt_of_fourQuestions :
    let content : Text :=
      "Q: Who?\n# Ways\n Q: Why?\nA: So.\n**Q: How?\n\n**A: Thus.\nQ: When?".toList
    let lines := content.lines
    (∃ line ∈ lines, isQuestion line = true) ∧ unpairedQuestions lines = [1, 8] ∧
      (faqAiTxt content).errors = (unpairedQuestions lines).map (fun question =>
          ⟨"Question at line " ++ toString question ++ " has no corresponding answer (A:)",
            some question⟩) ∧
        (unpairedQuestions lines).Pairwise (· < ·) ∧
        ∀ question, question ∈ unpairedQuestions lines ↔
          IsLineWith isQuestion lines question ∧ ¬ HasAnswer lines question := by
  intro content lines
  have asked : ∃ line ∈ lines, isQuestion line = true := by decide +kernel
  have unpaired : unpairedQuestions lines = [1, 8] := by decide +kernel
  exact ⟨asked, unpaired, errors_faqAiTxt_eq_unpairedQuestions asked⟩

end Check
end DiscoveryFiles
