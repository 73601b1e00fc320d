import DiscoveryFiles.Check.Questions
import DiscoveryFiles.Proofs.Report.Finding

/-!
# Answered questions

Questions and answers are known by the numbers of their lines.  When texts follow each other, the
last question of the first one has found its answer before the first question of the second.
-/

namespace DiscoveryFiles
namespace Check

/-! ## Numbers of lines -/

section Numbers

variable {condition : Text → Bool} {number : Nat}

private theorem linesWith_append (first second : List Text) :
    linesWith condition number (first ++ second) =
      linesWith condition number first ++ linesWith condition (number + first.length) second := by
  induction first generalizing number with
  | nil => rfl
  | cons line first induction =>
      rw [List.cons_append, linesWith, linesWith, induction, List.length_cons,
        show number + 1 + first.length = number + (first.length + 1) by omega]
      split <;> rfl

/-- The numbers are those of lines that there are. -/
theorem mem_linesWith_bounds {lines : List Text} {line : Nat}
    (member : line ∈ linesWith condition number lines) :
    number ≤ line ∧ line < number + lines.length := by
  induction lines generalizing number with
  | nil => cases member
  | cons first lines induction =>
      rw [List.length_cons]
      rw [linesWith] at member
      split at member
      · rcases List.mem_cons.mp member with rfl | later
        · omega
        · have := induction later
          omega
      · have := induction member
        omega

/-- Lines that are counted from a later number have later numbers. -/
theorem linesWith_add (lines : List Text) (offset : Nat) :
    linesWith condition (number + offset) lines =
      (linesWith condition number lines).map (· + offset) := by
  induction lines generalizing number with
  | nil => rfl
  | cons line lines induction =>
      rw [linesWith, linesWith, show number + offset + 1 = number + 1 + offset by omega, induction]
      split <;> rfl

end Numbers

/-! ## Answers -/

section Answers

variable {answers others : List Nat}

/-- With more answers, questions stay answered. -/
theorem unanswered_eq_nil_of_subset (fewer : answers ⊆ others) {questions : List Nat}
    (answered : unanswered answers questions = []) : unanswered others questions = [] := by
  have more {condition : Nat → Bool} (found : answers.any condition = true) :
      others.any condition = true := by
    obtain ⟨answer, member, here⟩ := List.any_eq_true.mp found
    exact List.any_eq_true.mpr ⟨answer, fewer member, here⟩
  fun_induction unanswered answers questions with
  | case1 => rfl
  | case2 question found => rw [unanswered, if_pos (more found)]
  | case3 question missing => cases answered
  | case4 question next questions rest found induction =>
      rw [unanswered, if_pos (more found), induction answered]
  | case5 question next questions rest missing induction => cases answered

/-- The differences between line numbers matter, and not the numbers. -/
theorem unanswered_map_add (offset : Nat) (answers questions : List Nat) :
    unanswered (answers.map (· + offset)) (questions.map (· + offset)) =
      (unanswered answers questions).map (· + offset) := by
  fun_induction unanswered answers questions with
  | case1 => rfl
  | case2 question found => simpa [unanswered] using found
  | case3 question missing => simpa [unanswered] using missing
  | case4 question next questions rest found induction =>
      simp only [List.map_cons] at induction ⊢
      rw [unanswered, if_pos (by simpa [List.any_map, Function.comp_def] using found), induction]
  | case5 question next questions rest missing induction =>
      simp only [List.map_cons] at induction ⊢
      rw [unanswered, if_neg (by simpa [List.any_map, Function.comp_def] using missing), induction]

/-- Answered questions stay answered if later questions follow that are answered as well. -/
theorem unanswered_append {questions laterAnswers laterQuestions : List Nat}
    (before : ∀ answer ∈ answers, ∀ question ∈ laterQuestions, answer < question)
    (first : unanswered answers questions = [])
    (second : unanswered laterAnswers laterQuestions = []) :
    unanswered (answers ++ laterAnswers) (questions ++ laterQuestions) = [] := by
  have later : unanswered (answers ++ laterAnswers) laterQuestions = [] :=
    unanswered_eq_nil_of_subset (List.subset_append_right answers laterAnswers) second
  fun_induction unanswered answers questions with
  | case1 => exact later
  | case2 question found =>
      obtain ⟨answer, member, behind⟩ := List.any_eq_true.mp found
      cases laterQuestions with
      | nil =>
          have still : (answers ++ laterAnswers).any (question < ·) = true :=
            List.any_eq_true.mpr ⟨answer, List.mem_append_left _ member, behind⟩
          rw [List.append_nil, unanswered, if_pos still]
      | cons next laterQuestions =>
          -- The answer stands in the first text, and so in front of the next question.
          have still : (answers ++ laterAnswers).any
              (fun answer => question < answer && answer < next) = true := by
            refine List.any_eq_true.mpr ⟨answer, List.mem_append_left _ member, ?_⟩
            rw [behind, Bool.true_and, decide_eq_true_eq]
            exact before answer member next List.mem_cons_self
          rw [List.singleton_append, unanswered, if_pos still, later]
  | case3 question missing => cases first
  | case4 question next questions rest found induction =>
      obtain ⟨answer, member, between⟩ := List.any_eq_true.mp found
      have still : (answers ++ laterAnswers).any
          (fun answer => question < answer && answer < next) = true :=
        List.any_eq_true.mpr ⟨answer, List.mem_append_left _ member, between⟩
      have behind := induction first
      rw [List.cons_append] at behind
      rw [List.cons_append, List.cons_append, unanswered, if_pos still, behind]
  | case5 question next questions rest missing induction => cases first

end Answers

/-! ## Files without errors -/

/-- Some lines are questions, and all of them are answered. -/
structure AllAnswered (lines : List Text) : Prop where
  /-- There are questions. -/
  asked : linesWith isQuestion 1 lines ≠ []
  /-- Each question has an answer before the next one. -/
  answered : unanswered (linesWith isAnswer 1 lines) (linesWith isQuestion 1 lines) = []

theorem errors_faqAiTxt_eq_nil_iff {content : Text} :
    (faqAiTxt content).errors = [] ↔ isBlank content = false ∧ AllAnswered content.lines := by
  have unanswered_iff (questions : List Nat) :
      (Findings.all (questions.map unansweredFinding)).errors = [] ↔ questions = [] := by
    rw [Findings.errors_all_eq_nil_iff]
    cases questions <;> simp [unansweredFinding]
  rw [faqAiTxt, errors_unless_isBlank_eq_nil_iff]
  refine and_congr_right fun _ => ?_
  dsimp only
  split
  next nothing =>
    constructor
    · rintro ⟨⟩
    · exact fun all => absurd nothing all.asked
  next asked =>
    rw [Findings.errors_append, List.append_eq_nil_iff, unanswered_iff,
      Findings.errors_require_eq_nil_iff]
    constructor
    · exact fun ⟨answered, _⟩ => ⟨asked, answered⟩
    · exact fun all => ⟨all.answered, .inr rfl⟩

theorem AllAnswered.append {first second : List Text} (all : AllAnswered first)
    (others : AllAnswered second) : AllAnswered (first ++ second) := by
  constructor
  · rw [linesWith_append]
    exact List.append_ne_nil_of_left_ne_nil all.asked _
  · rw [linesWith_append, linesWith_append]
    refine unanswered_append ?_ all.answered ?_
    · intro answer member question later
      have := mem_linesWith_bounds member
      have := mem_linesWith_bounds later
      omega
    · rw [linesWith_add, linesWith_add, unanswered_map_add, others.answered, List.map_nil]

end Check
end DiscoveryFiles
