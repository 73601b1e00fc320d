import DiscoveryFiles.Pattern.Parser.Bracket
import DiscoveryFiles.Pattern.Parser.Mark
import DiscoveryFiles.Pattern.Parser.Quantifier

/-!
# Reading patterns

A pattern is a list of alternatives, each of which is a list of items.  When it has been read to its
end, it is looked over once more for what can only be judged then.
-/

namespace DiscoveryFiles
namespace Pattern
namespace Parser

/-- The pattern of a sequence of items, the latest of which comes first. -/
def sequenceOf : List Pattern → Pattern
  | [] => .empty
  | item :: items =>
      items.foldl (fun pattern earlier => .sequence earlier pattern) item

/-- The pattern of a token that is neither an escape nor part of a larger construct. -/
def simple (flags : List Flag) (token : Token) : Pattern :=
  if token.is '.' then .one (if flags.contains .dotAll then .any else .anyButFeed)
  else if token.is '^' then .anchor (if flags.contains .everyLine then .lineStart else .start)
  else if token.is '$' then .anchor (if flags.contains .everyLine then .lineEnd else .lastLineEnd)
  else literal flags token.point.number

/-- Whether a token is a blank that spaced patterns skip. -/
def Token.isSpacing (token : Token) : Bool :=
  [' ', '\t', '\n', '\r', '\x0b', '\x0c'].any token.is

/-- Skip a remark up to the end of its line. -/
def skipLine : Nat → Step Unit
  | 0 => return
  | fuel + 1 => do
      let some token ← take | return
      if token.is '\n' then return else skipLine fuel

mutual

/-- Read alternatives up to a closing parenthesis or the end.  Outside of all groups there is no
scope, and the flags of the whole pattern hold, which may still come if this is the first
alternative.  The fuel bounds the number of steps; twice the number of tokens suffices. -/
def alternatives : Nat → Bool → Option (List Flag) → Step Pattern
  | 0, _, _ => do fail .unexpectedEnd (← here)
  | fuel + 1, initial, scope => do
      let first ← branch fuel initial (scope.getD (← get).flags) []
      if ← accept '|' then return .either first (← alternatives fuel false scope)
      else return first

/-- Read the items of one alternative under flags, given those already read, the latest of which
comes first. -/
def branch : Nat → Bool → List Flag → List Pattern → Step Pattern
  | 0, _, _, _ => do fail .unexpectedEnd (← here)
  | fuel + 1, initial, flags, items => do
      let index ← here
      match (← get).rest with
      | [] => return sequenceOf items
      | token :: _ =>
          if token.is '|' || token.is ')' then return sequenceOf items
          let _ ← take
          if flags.contains .spaced && token.isSpacing then branch fuel initial flags items
          else if flags.contains .spaced && token.is '#' then
            skipLine (← remaining)
            branch fuel initial flags items
          else if token.escaped then
            branch fuel initial flags ((← escape flags token.point) :: items)
          else if token.is '[' then branch fuel initial flags ((← bracket flags) :: items)
          else if token.is '(' then
            let behind := (← get).behind
            match ← opening flags with
            | .comment => branch fuel initial flags items
            | .item item => branch fuel initial flags (item :: items)
            | .settings added =>
                if !initial || !items.isEmpty then fail .lateFlags index
                modify fun cursor => { cursor with flags := cursor.flags ++ added }
                branch fuel initial (← get).flags items
            | .body inner enclosure =>
                let body ← alternatives fuel false (some inner)
                modify fun cursor => { cursor with behind }
                if !(← accept ')') then fail .openGroup index
                branch fuel initial flags ((← enclosure.close body) :: items)
            | .choice number =>
                let yes ← branch fuel false flags []
                let second ← accept '|'
                let no ← if second then branch fuel false flags [] else pure .empty
                if second && (← isNext '|') then fail .manyBranches (← here)
                if !(← accept ')') then fail .openGroup index
                branch fuel initial flags (.choose number yes no :: items)
          else if token.is '{' then
            match ← counts? with
            | some counts => branch fuel initial flags (← repeatLast counts index items)
            | none => branch fuel initial flags (literal flags token.point.number :: items)
          else
            match quantifier? token with
            | some counts => branch fuel initial flags (← repeatLast counts index items)
            | none => branch fuel initial flags (simple flags token :: items)

end

/-- The problem of a look at what comes before, which needs one width within reach. -/
def widthProblem? (width : Width) : Option Problem :=
  if countLimit < width.least then some .farBehind
  else if width.least ≠ width.most then some .unevenBehind
  else none

/-- The first problem of a finished pattern. -/
def lateProblem? (flags : List Flag) : Pattern → Option Problem
  | .empty | .one _ | .anchor _ | .same _ _ => none
  | .sequence first second => (lateProblem? flags first).or (lateProblem? flags second)
  | .either first second => (lateProblem? flags first).or (lateProblem? flags second)
  | .repeated manner body _ _ =>
      if flags.contains .template then some (.forbiddenRepeat manner)
      else lateProblem? flags body
  | .group _ body => lateProblem? flags body
  | .atomic body => lateProblem? flags body
  | .look .ahead _ body => lateProblem? flags body
  | .look (.behind width) _ body => (widthProblem? width).or (lateProblem? flags body)
  | .choose _ yes no => (lateProblem? flags yes).or (lateProblem? flags no)

/-- Look a pattern over that has been read up to its end. -/
def finish (pattern : Pattern) : Step Unit := do
  let cursor ← get
  if cursor.flags.contains .ascii && cursor.flags.contains .unicode then
    throw ⟨.opposedAlphabets, none⟩
  if !cursor.rest.isEmpty then fail .strayParenthesis cursor.index
  match cursor.choices.reverse.find? (cursor.groups < ·.1) with
  | some (number, index) => fail (.unknownGroup number) index
  | none => pure ()
  match lateProblem? cursor.flags pattern with
  | some problem => throw ⟨problem, none⟩
  | none => pure ()

/-- Read a whole pattern. -/
def whole : Step Pattern := do
  check
  let pattern ← alternatives (2 * (← remaining)) true none
  finish pattern
  return pattern

end Parser

/-- Read a pattern. -/
def parse (points : CodePoints) : Except Error Pattern :=
  (Parser.whole.run (.start points)).map Prod.fst

end Pattern
end DiscoveryFiles
