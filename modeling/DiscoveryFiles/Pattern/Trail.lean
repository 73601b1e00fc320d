import DiscoveryFiles.Pattern.Basic

/-!
# Following a pattern

Patterns that remember, choose, look around or hold on to what they found are followed along one
trail at a time.  Each pattern offers its stretches in order of preference to what comes next, until
one of them leads to the end.
-/

namespace DiscoveryFiles
namespace Pattern

/-- How far a pattern has been followed. -/
structure Trail where
  /-- The place that has been reached. -/
  place : Nat
  /-- The numbers of the groups that held something, with its first place and the place behind. -/
  held : List (Nat × Nat × Nat)

/-- What comes next: it turns a trail into the one at the end, if it gets there. -/
abbrev Onward := Trail → Option Trail

namespace Trail

/-- Remember what a group held that started at a place. -/
def remember (trail : Trail) (number start : Nat) : Trail :=
  { trail with held := (number, start, trail.place) :: trail.held.filter (·.1 ≠ number) }

/-- The trail behind one character of a class. -/
def advance? (text : Array CodePoint) (cls : CharClass) (trail : Trail) : Option Trail :=
  if text[trail.place]?.any cls.contains then some { trail with place := trail.place + 1 } else none

/-- Whether what stands at one place stands at another one as well, over so many characters. -/
def recurs (text : Array CodePoint) (folding : Folding) (first second : Nat) : Nat → Bool
  | 0 => true
  | length + 1 =>
      match text[first]?, text[second]? with
      | some point, some other =>
          folding.repeats point.number other.number &&
            recurs text folding (first + 1) (second + 1) length
      | _, _ => false

/-- The trail behind what a group held, once more. -/
def again? (text : Array CodePoint) (number : Nat) (folding : Folding) (trail : Trail) :
    Option Trail :=
  match trail.held.lookup number with
  | none => none
  | some (start, finish) =>
      if recurs text folding start trail.place (finish - start) then
        some { trail with place := trail.place + (finish - start) }
      else none

end Trail

/-- A way to follow a pattern: it offers trails to what comes next. -/
abbrev Way := Trail → Onward → Option Trail

namespace Way

/-- Follow a way so many times. -/
def times (way : Way) (onward : Onward) : Nat → Onward
  | 0, trail => onward trail
  | count + 1, trail => way trail (times way onward count)

/-- Follow a way up to so many times more, as often as possible first or as seldom.  Where it leads
nowhere new it is not followed again. -/
def upTo (way : Way) (seldom : Bool) (onward : Onward) : Nat → Onward
  | 0, trail => onward trail
  | count + 1, trail =>
      let longer := fun (_ : Unit) => way trail fun next =>
        if next.place = trail.place then onward next else upTo way seldom onward count next
      if seldom then onward trail <|> longer () else longer () <|> onward trail

/-- Follow a way so many times, and keep to what is found first each time. -/
def first? (way : Way) : Nat → Trail → Option Trail
  | 0, trail => some trail
  | count + 1, trail => (way trail some).bind (first? way count)

/-- Follow a way up to so many times more, and keep to what is found first each time. -/
def all (way : Way) : Nat → Trail → Trail
  | 0, trail => trail
  | count + 1, trail =>
      match way trail some with
      | none => trail
      | some next => if next.place = trail.place then next else all way count next

/-- Follow a way at least and at most so many times.  Without an upper bound it leads nowhere new
once every character has been passed. -/
def repeated (way : Way) (manner : Manner) (least : Nat) (most : Option Nat) (size : Nat) : Way :=
  fun trail onward =>
    let more := match most with
      | some most => most - least
      | none => size + 1
    match manner with
    | .greedy => way.times (way.upTo false onward more) least trail
    | .lazy => way.times (way.upTo true onward more) least trail
    | .possessive => (way.first? least trail).bind fun enough => onward (way.all more enough)

end Way

/-- Follow a pattern in a string from a trail. -/
def follow (text : Array CodePoint) : Pattern → Way
  | empty, trail, onward => onward trail
  | one cls, trail, onward => (trail.advance? text cls).bind onward
  | anchor condition, trail, onward =>
      if condition.holds text trail.place then onward trail else none
  | sequence first second, trail, onward =>
      first.follow text trail fun next => second.follow text next onward
  | either first second, trail, onward =>
      first.follow text trail onward <|> second.follow text trail onward
  | repeated manner body least most, trail, onward =>
      Way.repeated (body.follow text) manner least most text.size trail onward
  | group none body, trail, onward => body.follow text trail onward
  | group (some number) body, trail, onward =>
      body.follow text trail fun next => onward (next.remember number trail.place)
  | atomic body, trail, onward => (body.follow text trail some).bind onward
  | look side wanted body, trail, onward =>
      let found := match side with
        | .ahead => body.follow text trail some
        | .behind width =>
            if trail.place < width.least then none
            else body.follow text { trail with place := trail.place - width.least } some
      match found, wanted with
      | some next, true => onward { next with place := trail.place }
      | none, false => onward trail
      | _, _ => none
  | same number folding, trail, onward => (trail.again? text number folding).bind onward
  | choose number yes no, trail, onward =>
      if (trail.held.lookup number).isSome then yes.follow text trail onward
      else no.follow text trail onward

/-- Whether following a pattern succeeds from any place of a string. -/
def succeeds (pattern : Pattern) (text : Array CodePoint) : Bool :=
  (List.range (text.size + 1)).any fun place => (pattern.follow text ⟨place, []⟩ some).isSome

end Pattern
end DiscoveryFiles
