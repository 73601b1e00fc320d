import DiscoveryFiles.Pattern.Parser.Escape

/-!
# Classes between brackets

A class lists characters, ranges and escapes.  A closing bracket that comes first belongs to the
list, and so does a hyphen at either end of it.
-/

namespace DiscoveryFiles
namespace Pattern
namespace Parser

/-- Read one end of a range or a single part of a class, given its first token. -/
def classItem (flags : List Flag) (token : Token) : Step ClassPart :=
  if token.escaped then classEscape flags token.point else return singlePart token.point.number

/-- Read the parts of a class up to its closing bracket, given those before. -/
def classParts (flags : List Flag) (start : Nat) :
    Nat → List ClassPart → Step (List ClassPart)
  | 0, _ => fail .openClass start
  | fuel + 1, parts => do
      let some token ← take | fail .openClass start
      if token.is ']' && !parts.isEmpty then return parts
      let first ← classItem flags token
      if !(← accept '-') then classParts flags start fuel (parts ++ [first])
      else
        let some lastToken ← take | fail .openClass start
        if lastToken.is ']' then return parts ++ [first, singlePart 0x2D]
        let last ← classItem flags lastToken
        let index := (← here) - (token.points.length + 1 + lastToken.points.length)
        match first, last with
        | .range low _, .range high _ =>
            if high < low then fail (.badRange token.points lastToken.points) index
            else classParts flags start fuel (parts ++ [.range low high])
        | _, _ => fail (.badRange token.points lastToken.points) index

/-- Read a class behind its opening bracket. -/
def bracket (flags : List Flag) : Step Pattern := do
  let start := (← here) - 1
  let negated ← accept '^'
  let parts ← classParts flags start (← remaining) []
  return .one ⟨negated, .ofFlags flags, parts⟩

end Parser
end Pattern
end DiscoveryFiles
