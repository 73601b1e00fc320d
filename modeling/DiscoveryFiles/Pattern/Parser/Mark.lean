import DiscoveryFiles.Pattern.Parser.Escape
import DiscoveryFiles.Text.Identifier

/-!
# Marks of groups

Behind an opening parenthesis a question mark announces that this is no plain group.  The mark that
follows tells what it is instead: a group with a name or with flags, a look around, a choice, a
reference, a comment, or flags for the whole pattern.
-/

namespace DiscoveryFiles
namespace Pattern
namespace Parser

/-- What is made of the pattern between parentheses. -/
inductive Enclosure where
  /-- A group that is not remembered. -/
  | plain
  /-- A group that is remembered under a number. -/
  | numbered (number : Nat)
  /-- A pattern whose first stretch is kept. -/
  | atomic
  /-- A look at what follows. -/
  | ahead (wanted : Bool)
  /-- A look at what comes before. -/
  | behind (wanted : Bool)

/-- What starts with an opening parenthesis. -/
inductive Opening where
  /-- A comment, which has been skipped. -/
  | comment
  /-- Flags for the whole pattern. -/
  | settings (flags : List Flag)
  /-- An item, which is complete. -/
  | item (pattern : Pattern)
  /-- A pattern up to the closing parenthesis, under flags. -/
  | body (flags : List Flag) (enclosure : Enclosure)
  /-- The branches of a choice that depends on a group. -/
  | choice (number : Nat)

/-- Open a group, which may have a name. -/
def openGroup (flags : List Flag) (name? : Option CodePoints) : Step Opening := do
  let cursor ← get
  let number := cursor.groups + 1
  match name? with
  | none =>
      set { cursor with groups := number }
      return .body flags (.numbered number)
  | some name =>
      match cursor.names.lookup name with
      | some earlier => failAtName (.takenGroupName name number earlier) name
      | none =>
          set { cursor with groups := number, names := (name, number) :: cursor.names }
          return .body flags (.numbered number)

/-- Take the name of a group up to a closing character. -/
def groupName (closing : Char) : Step CodePoints := do
  let name ← nameUpTo closing .unnamedGroup
  if name.isIdentifier then return name else failAtName (.badGroupName name) name

/-- The number of the group with a name that has just been taken. -/
def numberOf (name : CodePoints) : Step Nat := do
  match (← get).names.lookup name with
  | some number => return number
  | none => failAtName (.unknownGroupName name) name

/-- Report a mark that has just been taken and is unknown. -/
def failAtMark (mark : CodePoints) : Step Opening := do
  fail (.unknownExtension mark) ((← here) - mark.length)

/-- Read on behind the mark of names. -/
def nameMark (flags : List Flag) : Step Opening := do
  if ← accept '<' then openGroup flags (some (← groupName '>'))
  else if ← accept '=' then
    let name ← groupName ')'
    let number ← numberOf name
    return .item (← reference flags number ((← here) - (name.length + 1)))
  else
    let some token ← take | fail .unexpectedEnd (← here)
    failAtMark (.scalar '?' :: .scalar 'P' :: token.points)

/-- Read on behind the mark of what comes before. -/
def behindMark (flags : List Flag) : Step Opening := do
  let some token ← take | fail .unexpectedEnd (← here)
  if token.is '=' || token.is '!' then
    modify fun cursor => { cursor with behind := cursor.behind <|> some cursor.groups }
    return .body flags (.behind (token.is '='))
  else failAtMark (.scalar '?' :: .scalar '<' :: token.points)

/-- Skip a comment up to its closing parenthesis. -/
def skipComment (start : Nat) : Nat → Step Unit
  | 0 => fail .openComment start
  | fuel + 1 => do
      let some token ← take | fail .openComment start
      if token.is ')' then return else skipComment start fuel

/-- The value of a decimal digit of any script: the digits of a script follow each other. -/
def decimalValue (number : Nat) : Nat :=
  match Text.decimalRanges.find? fun range => range.1 ≤ number && number ≤ range.2 with
  | some range => (number - range.1) % 10
  | none => 0

/-- Whether a code point may stand around the number of a group. -/
def isPadding (number : Nat) : Bool :=
  Text.isBlank number && !(0x1C ≤ number && number ≤ 0x1F)

/-- The digits of a number in which single low lines may stand between digits. -/
def digits? : List Nat → Option (List Nat)
  | [] => none
  | [number] => if Text.isDecimal number then some [decimalValue number] else none
  | number :: 0x5F :: rest =>
      if Text.isDecimal number then (digits? rest).map (decimalValue number :: ·) else none
  | number :: rest =>
      if Text.isDecimal number then (digits? rest).map (decimalValue number :: ·) else none

/-- The number of a group.  Blanks around it, a sign, low lines and digits of any script are let
pass; a number below zero is none. -/
def groupNumber? (name : CodePoints) : Option Nat := do
  let start := (name.map CodePoint.number).dropWhile isPadding
  let numbers := (start.reverse.dropWhile isPadding).reverse
  let negative := numbers.head? == some 0x2D
  let signed := negative || numbers.head? == some 0x2B
  let digits ← digits? (if signed then numbers.tail else numbers)
  let number := digits.foldl (fun n digit => n * 10 + digit) 0
  if 4300 < digits.length || negative && number ≠ 0 then none else some number

/-- The number that every number of a group stays below. -/
def groupLimit : Nat := 1073741823

/-- Take the number of a group on which a choice depends.  It is enough if the group comes later. -/
def choiceNumber (name : CodePoints) : Step Nat := do
  match groupNumber? name with
  | none => failAtName (.badGroupName name) name
  | some 0 => failAtName .groupZero name
  | some number =>
      if groupLimit ≤ number then failAtName (.unknownGroup number) name
      let index := (← here) - (name.length + 1)
      modify fun cursor => { cursor with choices := (number, index) :: cursor.choices }
      return number

/-- Read on behind the mark of a choice. -/
def choiceMark : Step Opening := do
  let name ← nameUpTo ')' .unnamedGroup
  let number ← if name.isIdentifier then numberOf name else choiceNumber name
  checkBehind number
  return .choice number

/-- Whether a token is a letter of any script. -/
def Token.isLetter (token : Token) : Bool :=
  !token.escaped && Text.isLetter token.point.number

/-- The flag that a token stands for. -/
def Token.flag? (token : Token) : Option Flag :=
  match token with
  | ⟨false, .scalar c⟩ => Flag.ofLetter? c
  | _ => none

/-- Read the flags that are turned on, given the first that has not been counted in.  The answer
holds the flags and the character that ends them. -/
def flagsOn : Nat → List Flag → Flag → Step (List Flag × Char)
  | 0, _, _ => do fail .openFlags (← here)
  | fuel + 1, added, flag => do
      let index ← here
      if flag = .locale then fail .localeFlag index
      if flag.isAlphabet && added.any fun other => other.isAlphabet && other ≠ flag then
        fail .opposedFlags index
      let some token ← take | fail .openFlags index
      match [')', '-', ':'].find? token.is, token.flag? with
      | some closing, _ => return (flag :: added, closing)
      | none, some next => flagsOn fuel (flag :: added) next
      | none, none => fail (if token.isLetter then .unknownFlag else .openFlags) index

/-- Read the flags that are turned off up to a colon, given the first that has not been counted
in. -/
def flagsOff : Nat → List Flag → Flag → Step (List Flag)
  | 0, _, _ => do fail .openRemoval (← here)
  | fuel + 1, removed, flag => do
      let index ← here
      if flag.isAlphabet then fail .requiredFlag index
      let some token ← take | fail .openRemoval index
      if token.is ':' then return flag :: removed
      match token.flag? with
      | some next => flagsOff fuel (flag :: removed) next
      | none => fail (if token.isLetter then .unknownFlag else .openRemoval) index

/-- Read the flags that are turned off behind a hyphen. -/
def removedFlags : Step (List Flag) := do
  let index ← here
  let some token ← take | fail .missingFlag index
  match token.flag? with
  | some flag => flagsOff (← remaining) [] flag
  | none => fail (if token.isLetter then .unknownFlag else .missingFlag) index

/-- Read the rest of the mark of a group with flags, of which some have been turned on.  The
character is the one behind them. -/
def flagMark (flags added : List Flag) (closing : Char) : Step Opening := do
  if added.contains .template then fail .globalFlagOn ((← here) - 1)
  let removed ← if closing = '-' then removedFlags else pure []
  if removed.contains .template then fail .globalFlagOff ((← here) - 1)
  if added.any removed.contains then fail .contraryFlags ((← here) - 1)
  return .body (flagsWithin flags added removed) .plain

/-- Read the mark behind a question mark.  The index is that of the parenthesis. -/
def mark (flags : List Flag) (start : Nat) : Step Opening := do
  let some token ← take | fail .unexpectedEnd (← here)
  if token.is ':' then return .body flags .plain
  else if token.is '>' then return .body flags .atomic
  else if token.is '=' || token.is '!' then return .body flags (.ahead (token.is '='))
  else if token.is '<' then behindMark flags
  else if token.is 'P' then nameMark flags
  else if token.is '(' then choiceMark
  else if token.is '-' then flagMark flags [] '-'
  else if token.is '#' then
    skipComment start (← remaining)
    return .comment
  else
    match token.flag? with
    | none => failAtMark (.scalar '?' :: token.points)
    | some flag =>
        let (added, closing) ← flagsOn (← remaining) [] flag
        if closing = ')' then return .settings added else flagMark flags added closing

/-- Read on behind an opening parenthesis. -/
def opening (flags : List Flag) : Step Opening := do
  let start := (← here) - 1
  if ← accept '?' then mark flags start else openGroup flags none

/-- Close the pattern between parentheses. -/
def Enclosure.close (body : Pattern) : Enclosure → Step Pattern
  | .plain => return .group none body
  | .atomic => return .atomic body
  | .ahead wanted => return .look .ahead wanted body
  | .behind wanted => do return .look (.behind (body.width (← get).widths)) wanted body
  | .numbered number => do
      modify fun cursor =>
        { cursor with widths := (number, body.width cursor.widths) :: cursor.widths }
      return .group (some number) body

end Parser
end Pattern
end DiscoveryFiles
