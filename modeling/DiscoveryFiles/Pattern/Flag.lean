import DiscoveryFiles.Text.CaseVariant

/-!
# Flags of patterns

A flag changes how a pattern is read or what it means.  Flags hold for a whole pattern or for one of
its groups.
-/

namespace DiscoveryFiles
namespace Pattern

/-- A flag. -/
inductive Flag where
  /-- The case of letters does not matter. -/
  | ignoreCase
  /-- Characters are classed after the place where the program runs, which texts do not allow. -/
  | locale
  /-- Lines start and end at every line feed. -/
  | everyLine
  /-- The dot also stands for a line feed. -/
  | dotAll
  /-- Blanks and comments in the pattern are skipped. -/
  | spaced
  /-- Characters are classed within ASCII. -/
  | ascii
  /-- The pattern may not repeat anything. -/
  | template
  /-- Characters are classed within all of Unicode. -/
  | unicode
  deriving DecidableEq, Repr

/-- The flag of a letter. -/
def Flag.ofLetter? : Char → Option Flag
  | 'i' => some ignoreCase
  | 'L' => some locale
  | 'm' => some everyLine
  | 's' => some dotAll
  | 'x' => some spaced
  | 'a' => some ascii
  | 't' => some template
  | 'u' => some unicode
  | _ => none

/-- Whether a flag says how characters are classed.  Of these only one can hold. -/
def Flag.isAlphabet : Flag → Bool
  | ascii | locale | unicode => true
  | _ => false

/-- The flags that hold in a group which turns some on and some off. -/
def flagsWithin (outer added removed : List Flag) : List Flag :=
  let kept := if added.any Flag.isAlphabet then outer.filter (!·.isAlphabet) else outer
  (kept ++ added).filter (!removed.contains ·)

/-- How far the case of letters is ignored. -/
inductive Folding where
  /-- Every code point means itself alone. -/
  | strict
  /-- The two cases of an ASCII letter mean the same. -/
  | ascii
  /-- The cases of any letter mean the same. -/
  | unicode
  deriving DecidableEq, Repr

namespace Folding

/-- How far case is ignored under flags. -/
def ofFlags (flags : List Flag) : Folding :=
  if !flags.contains .ignoreCase then strict
  else if flags.contains .ascii then ascii
  else unicode

/-- The code points that mean the same as a given one, itself included. -/
def variants : Folding → Nat → List Nat
  | strict, number => [number]
  | ascii, number => Text.asciiCaseVariants number
  | unicode, number => Text.caseVariants number

/-- Whether one code point repeats another.  Letters that only share a capital differ here. -/
def repeats : Folding → Nat → Nat → Bool
  | strict, first, second => first == second
  | ascii, first, second => (Text.asciiCaseVariants first).contains second
  | unicode, first, second => Text.smallForm first == Text.smallForm second

@[simp]
theorem ofFlags_nil : ofFlags [] = strict := rfl

@[simp]
theorem variants_strict (number : Nat) : strict.variants number = [number] := rfl

end Folding
end Pattern
end DiscoveryFiles
