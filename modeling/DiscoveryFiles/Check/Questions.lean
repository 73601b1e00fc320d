import DiscoveryFiles.Check.Sections

/-!
# Questions and answers

Each question needs an answer before the next question.
-/

namespace DiscoveryFiles
namespace Check

/-- Whether a line is a question. -/
def isQuestion (line : Text) : Bool :=
  line.trim.begins "Q:" || line.trim.begins "**Q:"

/-- Whether a line is an answer. -/
def isAnswer (line : Text) : Bool :=
  line.trim.begins "A:" || line.trim.begins "**A:"

/-- The numbers of the lines that meet a condition, where the first line has the given number. -/
def linesWith (condition : Text → Bool) (number : Nat) : List Text → List Nat
  | [] => []
  | line :: lines =>
      if condition line then number :: linesWith condition (number + 1) lines
      else linesWith condition (number + 1) lines

/-- The questions that no answer follows before the next question. -/
def unanswered (answers : List Nat) : List Nat → List Nat
  | [] => []
  | [question] => if answers.any (question < ·) then [] else [question]
  | question :: next :: questions =>
      let others := unanswered answers (next :: questions)
      if answers.any fun answer => question < answer && answer < next then others
      else question :: others

/-- Whether a line groups questions under a heading.  A reference in brackets is no heading. -/
def isTopic (line : Text) : Bool :=
  let line := line.trim
  isHeader line && !line.begins "[//" || line.begins "## " || line.begins "# "

/-- The error for a question without an answer. -/
def unansweredFinding (question : Nat) : Findings :=
  .errorAt question
    ("Question at line " ++ toString question ++ " has no corresponding answer (A:)")

/-- Check questions and answers. -/
def faqAiTxt (content : Text) : Findings :=
  if isBlank content then .error emptyMessage
  else
    let lines := content.lines
    match linesWith isQuestion 1 lines with
    | [] => .error "File MUST contain at least one question (Q: prefix)"
    | questions =>
        Findings.all ((unanswered (linesWith isAnswer 1 lines) questions).map unansweredFinding) ++
          Findings.require (lines.any isTopic)
            (.warning "File SHOULD organise FAQs into sections using headings")

end Check
end DiscoveryFiles
