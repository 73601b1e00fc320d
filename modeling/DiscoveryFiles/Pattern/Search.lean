import DiscoveryFiles.Pattern.Basic

/-!
# Searching for a pattern

All stretches are followed at once.  A set of places is a number whose bits tell which places
belong to it; a pattern turns the set of places where its stretches may start into the set of
places where they end.  Greed and laziness do not matter for whether a stretch exists, as long as
nothing in the pattern depends on which stretch was found.
-/

namespace DiscoveryFiles
namespace Pattern

/-- The set of the places below a bound that meet a condition. -/
def places (condition : Nat → Bool) : Nat → Nat
  | 0 => 0
  | bound + 1 => places condition bound ||| (condition bound).toNat <<< bound

/-- A pattern made ready for one string: instead of conditions on places it has the sets of the
places that meet them. -/
inductive Search where
  /-- The empty stretch at the places of a set. -/
  | stay (set : Nat)
  /-- One character, at the places of a set. -/
  | advance (set : Nat)
  /-- A stretch of the first search and then one of the second. -/
  | sequence (first second : Search)
  /-- A stretch of one of two searches. -/
  | either (first second : Search)
  /-- So many stretches of a search, and then up to so many more. -/
  | repeated (body : Search) (least more : Nat)

/-- Make a pattern ready for a string.  Without an upper bound, more repetitions than the string
has characters lead to no new place.  Patterns for which two places are not enough have no
search. -/
def search? (text : Array CodePoint) : Pattern → Option Search
  | empty => some (.stay (places (fun _ => true) (text.size + 1)))
  | one cls => some (.advance (places (fun place => text[place]?.any cls.contains) text.size))
  | anchor condition =>
      some (.stay (places (fun place => condition.holds text place) (text.size + 1)))
  | sequence first second => do return .sequence (← first.search? text) (← second.search? text)
  | either first second => do return .either (← first.search? text) (← second.search? text)
  | repeated .possessive _ _ _ => none
  | repeated _ body least most => do
      return .repeated (← body.search? text) least
        (match most with
          | some most => most - least
          | none => text.size)
  | group _ body => body.search? text
  | atomic _ | look _ _ _ | same _ _ | choose _ _ _ => none

/-- Take a step over and over, as often as given, or until it changes nothing. -/
def stepTimes (step : Nat → Nat) : Nat → Nat → Nat
  | 0, set => set
  | times + 1, set =>
      let next := step set
      if next = set then set else stepTimes step times next

/-- Add to a set what up to so many steps lead to, or stop when nothing new comes. -/
def spread (step : Nat → Nat) : Nat → Nat → Nat
  | 0, set => set
  | times + 1, set =>
      let next := set ||| step set
      if next = set then set else spread step times next

/-- The places where stretches end that start in a set of places. -/
def Search.reach : Search → Nat → Nat
  | stay set, starts => starts &&& set
  | advance set, starts => (starts &&& set) <<< 1
  | sequence first second, starts => second.reach (first.reach starts)
  | either first second, starts => first.reach starts ||| second.reach starts
  | repeated body least more, starts => spread body.reach more (stepTimes body.reach least starts)

/-- Whether a search finds a stretch anywhere in a string. -/
def Search.succeeds (search : Search) (text : Array CodePoint) : Bool :=
  search.reach (places (fun _ => true) (text.size + 1)) != 0

end Pattern
end DiscoveryFiles
