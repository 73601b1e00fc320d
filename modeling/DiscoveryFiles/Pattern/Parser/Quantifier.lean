import DiscoveryFiles.Pattern.Parser.Escape

/-!
# Quantifiers

A quantifier repeats the item before it.  What stands between braces is a quantifier only if it has
the form of counts; otherwise the opening brace is an ordinary character.
-/

namespace DiscoveryFiles
namespace Pattern
namespace Parser

/-- The least and the greatest number of repetitions. -/
structure Counts where
  /-- The least number. -/
  least : Nat
  /-- The greatest number, if there is one. -/
  most : Option Nat

/-- The counts of a quantifier of one character. -/
def quantifier? (token : Token) : Option Counts :=
  if token.is '?' then some ⟨0, some 1⟩
  else if token.is '*' then some ⟨0, none⟩
  else if token.is '+' then some ⟨1, none⟩
  else none

/-- The bound that every count stays below. -/
def countLimit : Nat := 4294967295

/-- The greatest number of digits that a count may have. -/
def digitLimit : Nat := 4300

/-- The count that digits write. -/
def countOf (digits : CodePoints) : Step Nat := do
  let index ← here
  if digitLimit < digits.length then fail (.longCount digits.length) index
  else if countLimit ≤ numberIn 10 digits then fail .largeCount index
  else return numberIn 10 digits

/-- Read counts from behind the opening brace up to the closing one.  What does not have the form
of counts is no quantifier, and the cursor stays behind the brace. -/
def counts? : Step (Option Counts) := do
  let start ← get
  if ← isNext '}' then return none
  let low ← takeUpTo isDigit start.rest.length
  let high ← if ← accept ',' then takeUpTo isDigit start.rest.length else pure low
  if ← accept '}' then
    let least ← countOf low
    if high.isEmpty then return some ⟨least, none⟩
    let most ← countOf high
    if most < least then fail .crossedCounts start.index
    else return some ⟨least, some most⟩
  else
    set start
    return none

/-- Read the mark behind a quantifier that says how it goes about its count. -/
def manner : Step Manner := do
  if ← accept '?' then return .lazy
  else if ← accept '+' then return .possessive
  else return .greedy

/-- Repeat the last of the items read, the latest of which comes first.  The index is that of the
quantifier. -/
def repeatLast (counts : Counts) (index : Nat) : List Pattern → Step (List Pattern)
  | [] => fail .nothingToRepeat index
  | .anchor _ :: _ => fail .nothingToRepeat index
  | .repeated _ _ _ _ :: _ => fail .multipleRepeat index
  | item :: others => return .repeated (← manner) item counts.least counts.most :: others

end Parser
end Pattern
end DiscoveryFiles
