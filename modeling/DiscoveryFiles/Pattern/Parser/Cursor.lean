import DiscoveryFiles.Pattern.Error

/-!
# A cursor in a pattern

A pattern is read token by token.  A token is a character, or a backslash and the character behind
it; a backslash that ends the pattern is found out as soon as the token before it is taken.  The
cursor also knows the groups that it has passed, since references name them.
-/

namespace DiscoveryFiles
namespace Pattern
namespace Parser

/-- A unit of a pattern. -/
structure Token where
  /-- Whether a backslash comes first. -/
  escaped : Bool
  /-- The character. -/
  point : CodePoint
  deriving DecidableEq

/-- The code points of a token. -/
def Token.points (token : Token) : CodePoints :=
  if token.escaped then [.scalar '\\', token.point] else [token.point]

/-- Whether a token is this character without a backslash. -/
def Token.is (token : Token) (c : Char) : Bool :=
  !token.escaped && token.point == .scalar c

/-- The tokens of a pattern, and whether a lone backslash follows them. -/
def tokens : CodePoints → List Token × Bool
  | [] => ([], false)
  | [.scalar '\\'] => ([], true)
  | .scalar '\\' :: point :: rest =>
      let (others, dangling) := tokens rest
      (⟨true, point⟩ :: others, dangling)
  | point :: rest =>
      let (others, dangling) := tokens rest
      (⟨false, point⟩ :: others, dangling)

/-- How far a pattern has been read. -/
structure Cursor where
  /-- The number of code points read. -/
  index : Nat
  /-- The tokens that follow. -/
  rest : List Token
  /-- Whether a lone backslash follows them. -/
  dangling : Bool
  /-- The number of groups opened. -/
  groups : Nat
  /-- The names of groups and their numbers. -/
  names : List (CodePoints × Nat)
  /-- The numbers of the groups that are closed, and their widths. -/
  widths : List (Nat × Width)
  /-- Inside of patterns that look behind, the number of groups opened before the outermost one. -/
  behind : Option Nat
  /-- The numbers of groups on which choices depend, and where they are named, the latest first. -/
  choices : List (Nat × Nat)
  /-- The flags that hold for the whole pattern. -/
  flags : List Flag

/-- The cursor at the start of a pattern. -/
def Cursor.start (points : CodePoints) : Cursor :=
  let (tokens, dangling) := tokens points
  ⟨0, tokens, dangling, 0, [], [], none, [], []⟩

/-- A step of reading, which moves the cursor on. -/
abbrev Step := StateT Cursor (Except Error)

/-- Report a problem at an index. -/
def fail {α : Type} (problem : Problem) (index : Nat) : Step α :=
  throw ⟨problem, some index⟩

/-- The number of code points read. -/
def here : Step Nat :=
  return (← get).index

/-- A bound on the number of tokens that can still be taken. -/
def remaining : Step Nat :=
  return (← get).rest.length + 1

/-- Refuse to go on where a lone backslash is all that follows. -/
def check : Step Unit := do
  let cursor ← get
  if cursor.rest.isEmpty && cursor.dangling then fail .finalBackslash cursor.index

/-- Take the next token, if there is one. -/
def take : Step (Option Token) := do
  let cursor ← get
  match cursor.rest with
  | [] => return none
  | token :: rest =>
      set { cursor with index := cursor.index + token.points.length, rest }
      check
      return some token

/-- Whether the next token is this character. -/
def isNext (c : Char) : Step Bool :=
  return (← get).rest.head?.any (·.is c)

/-- Take the next token if it is this character. -/
def accept (c : Char) : Step Bool := do
  if ← isNext c then
    let _ ← take
    return true
  else return false

/-- Take up to so many tokens that are characters of a kind. -/
def takeUpTo (kind : Char → Bool) : Nat → Step CodePoints
  | 0 => return []
  | count + 1 => do
      match (← get).rest with
      | ⟨false, .scalar c⟩ :: _ =>
          if kind c then
            let _ ← take
            return .scalar c :: (← takeUpTo kind count)
          else return []
      | _ => return []

/-- Take a name up to a closing character, given what of it has been taken. -/
def takeName (closing : Char) (missing : Problem) : Nat → CodePoints → Step CodePoints
  | 0, _ => do fail missing (← here)
  | fuel + 1, name => do
      match ← take with
      | some token =>
          if !token.is closing then takeName closing missing fuel (name ++ token.points)
          else if name.isEmpty then fail missing ((← here) - 1)
          else return name
      | none =>
          if name.isEmpty then fail missing (← here)
          else fail (.openName closing) ((← here) - name.length)

/-- Take a name up to a closing character. -/
def nameUpTo (closing : Char) (missing : Problem) : Step CodePoints := do
  takeName closing missing (← remaining) []

/-- Report a problem at the start of a name that has just been taken. -/
def failAtName {α : Type} (problem : Problem) (name : CodePoints) : Step α := do
  fail problem ((← here) - (name.length + 1))

end Parser
end Pattern
end DiscoveryFiles
