import DiscoveryFiles.Proofs.Pattern.Expression
import DiscoveryFiles.Proofs.Pattern.Word

/-!
# Patterns of written patterns

A written pattern stands for a pattern, which is unique up to the numbers of its groups.  Its
stretches are the words of the written pattern's language.
-/

namespace DiscoveryFiles
namespace Pattern

/-! ## From the tree to the pattern -/

/-- The property of a kind of characters. -/
def Category.property : Category → Property
  | digit => .digit
  | blank => .blank
  | word => .word

/-- The part of a class for a kind of characters. -/
def Category.part (kind : Category) (lacking : Bool) : ClassPart :=
  if lacking then .lacking kind.property else .having kind.property

/-- The part of a class that a written part stands for. -/
def Part.part : Part → ClassPart
  | category kind lacking => kind.part lacking
  | single member => .range member.number member.number
  | range first last _ _ => .range first.number last.number

/-- The class that a single character stands for. -/
def Single.cls : Single → CharClass
  | dot => .anyButFeed
  | brace => .single .strict 0x7B
  | plain point _ => .single .strict point.number
  | escape written _ => .single .strict written.number
  | category kind lacking => ⟨false, .strict, [kind.part lacking]⟩
  | bracket cls => ⟨cls.negated, .strict, (cls.first :: cls.others).map Part.part⟩

/-- The condition that a written one stands for. -/
def Place.anchor : Place → Anchor
  | caret | start => .start
  | dollar => .lastLineEnd
  | finish => .finish
  | edge => .edge .word
  | noEdge => .noEdge .word

/-- How a quantifier goes about its count. -/
def Quantifier.manner (quantifier : Quantifier) : Manner :=
  if quantifier.isLazy then .lazy else .greedy

/-- A pattern, repeated as a quantifier says. -/
def quantified (pattern : Pattern) : Option Quantifier → Pattern
  | none => pattern
  | some quantifier =>
      .repeated quantifier.manner pattern quantifier.repetition.least quantifier.repetition.most

mutual

/-- Alternatives stand for a pattern. -/
def Expression.StandsFor : Expression → Pattern → Prop
  | .last row, pattern => ∃ items, row.StandsFor items ∧ pattern = Parser.sequenceOf items.reverse
  | .either row others, pattern =>
      ∃ items other, row.StandsFor items ∧ others.StandsFor other ∧
        pattern = .either (Parser.sequenceOf items.reverse) other

/-- Items stand for patterns. -/
def Row.StandsFor : Row → List Pattern → Prop
  | .done, items => items = []
  | .place place behind, items =>
      ∃ others, behind.StandsFor others ∧ items = .anchor place.anchor :: others
  | .single single quantifier behind, items =>
      ∃ others, behind.StandsFor others ∧
        items = quantified (.one single.cls) quantifier :: others
  | .group _ body quantifier behind, items =>
      ∃ number inner others, body.StandsFor inner ∧ behind.StandsFor others ∧
        items = quantified (.group number inner) quantifier :: others

end

/-! ## Single characters and places -/

section Single

variable {point : CodePoint}

private theorem number_inj {other : CodePoint} : point.number = other.number ↔ point = other := by
  refine ⟨fun same => ?_, congrArg CodePoint.number⟩
  have valid (c : Char) : c.toNat < 0xD800 ∨ 0xDFFF < c.toNat ∧ c.toNat < 0x110000 := c.valid
  cases point with
  | scalar c =>
      cases other with
      | scalar d => exact congrArg CodePoint.scalar (Char.toNat_inj.mp same)
      | surrogate offset =>
          have inside := offset.isLt
          have range := valid c
          simp only [CodePoint.number] at same
          omega
  | surrogate offset =>
      cases other with
      | scalar c =>
          have inside := offset.isLt
          have range := valid c
          simp only [CodePoint.number] at same
          omega
      | surrogate other =>
          simp only [CodePoint.number, Nat.add_left_cancel_iff] at same
          exact congrArg CodePoint.surrogate (Fin.ext same)

private theorem Category.part_contains_iff (kind : Category) (lacking : Bool) :
    (kind.part lacking).contains .strict point.number = true ↔
      if lacking then ¬ kind.Holds point else kind.Holds point := by
  cases lacking <;> cases kind <;>
    simp [Category.part, Category.property, Category.Holds, ClassPart.contains, Property.holds]

private theorem range_contains_iff {first last : Nat} :
    (ClassPart.range first last).contains .strict point.number = true ↔
      first ≤ point.number ∧ point.number ≤ last := by
  simp [ClassPart.contains]

private theorem Part.part_contains_iff (part : Part) :
    part.part.contains .strict point.number = true ↔ part.Holds point := by
  cases part with
  | category kind lacking =>
      cases lacking with
      | false => exact kind.part_contains_iff false
      | true => exact kind.part_contains_iff true
  | single member =>
      simp only [Part.part, Part.Holds, range_contains_iff]
      omega
  | range first last => exact range_contains_iff

private theorem single_contains_iff_number {number : Nat} :
    (CharClass.single .strict number).contains point = true ↔ point.number = number := by
  simp only [CharClass.single, CharClass.contains, List.any_cons, List.any_nil, Bool.or_false,
    Bool.false_bne, range_contains_iff]
  omega

private theorem Single.cls_contains_iff (single : Single) :
    single.cls.contains point = true ↔ single.Holds point := by
  cases single with
  | dot =>
      have feed : (CodePoint.scalar '\n').number = 0xA := rfl
      simp only [Single.cls, CharClass.anyButFeed, CharClass.contains, List.any_cons, List.any_nil,
        Bool.or_false, Single.Holds, bne_iff_ne, ne_eq, ← number_inj, feed]
      rw [eq_comm, Bool.not_eq_true, ← Bool.not_eq_true, range_contains_iff]
      omega
  | brace => exact single_contains_iff_number.trans (@number_inj point (.scalar '\x7b'))
  | plain other => exact single_contains_iff_number.trans number_inj
  | escape written => exact single_contains_iff_number
  | category kind lacking =>
      simp only [Single.cls, CharClass.contains, List.any_cons, List.any_nil, Bool.or_false,
        Bool.false_bne, Category.part_contains_iff]
      cases lacking <;> rfl
  | bracket cls =>
      have parts_iff : ((cls.first :: cls.others).map Part.part).any
          (·.contains .strict point.number) = true ↔
            ∃ part ∈ cls.first :: cls.others, part.Holds point := by
        simp only [List.any_map, List.any_eq_true, Function.comp_apply, Part.part_contains_iff]
      simp only [Single.cls, Single.Holds, Bracket.Holds, CharClass.contains]
      cases cls.negated with
      | false => simpa using parts_iff
      | true =>
          rw [if_pos rfl, Bool.true_bne, Bool.not_eq_true', ← Bool.not_eq_true, parts_iff]
          simp only [not_exists, not_and]

end Single

section Place

variable {before behind : CodePoints}

private theorem standsAt_iff (points : CodePoints) (place : Nat) :
    standsAt .word points.toArray place = true ↔ IsWordAt points[place]? := by
  simp only [standsAt, IsWordAt, List.getElem?_toArray, Category.Holds]
  cases points[place]? <;> simp [Property.holds]

private theorem standsAt_append_iff :
    standsAt .word (before ++ behind).toArray before.length = true ↔ IsWordAt behind.head? := by
  rw [standsAt_iff, List.getElem?_append_right (Nat.le_refl _), Nat.sub_self,
    List.head?_eq_getElem?]

private theorem standsBefore_append_iff :
    standsBefore .word (before ++ behind).toArray before.length = true ↔
      IsWordAt before.getLast? := by
  rcases List.eq_nil_or_concat before with rfl | ⟨front, last, rfl⟩
  · simp [standsBefore, IsWordAt]
  · have length_eq : (front.concat last).length = front.length + 1 := by simp
    rw [length_eq, standsBefore, standsAt_iff]
    simp

/-- A written condition holds between two parts of a string where its condition does. -/
theorem Place.anchor_holds_iff (place : Place) (before behind : CodePoints) :
    place.anchor.holds (before ++ behind).toArray before.length = true ↔
      place.Holds before behind := by
  have edge_iff : (standsBefore .word (before ++ behind).toArray before.length ==
      standsAt .word (before ++ behind).toArray before.length) = true ↔
        (IsWordAt before.getLast? ↔ IsWordAt behind.head?) := by
    rw [beq_iff_eq, Bool.eq_iff_iff, standsBefore_append_iff, standsAt_append_iff]
  cases place with
  | caret | start => simp [Place.anchor, Place.Holds, Anchor.holds]
  | dollar =>
      have inside : before.length ≤ (before ++ behind).length := by simp
      rw [Place.anchor, lastLineEnd_holds_iff inside, List.drop_left]
      rfl
  | finish =>
      simp only [Place.anchor, Place.Holds, Anchor.holds, List.size_toArray, List.length_append,
        beq_iff_eq, Nat.left_eq_add, List.length_eq_zero_iff]
  | edge =>
      simp only [Place.anchor, Place.Holds, Anchor.holds, ← edge_iff, bne, Bool.not_eq_true']
      rw [Bool.not_eq_true]
  | noEdge =>
      simp only [Place.anchor, Place.Holds, Anchor.holds, ← edge_iff, Bool.and_eq_true]
      simp

end Place

/-! ## Stretches as words between others -/

/-- A relation on the places of strings leads over the words of a language. -/
def Spans (step : Array CodePoint → Nat → Nat → Prop) (language : Language) : Prop :=
  ∀ before word behind,
    step (before ++ word ++ behind).toArray before.length (before.length + word.length) ↔
      language before word behind

/-- A relation on the places of strings stays or goes forward. -/
def Advances (step : Array CodePoint → Nat → Nat → Prop) : Prop :=
  ∀ text start finish, step text start finish →
    start = finish ∨ start < finish ∧ finish ≤ text.size

namespace Spans

variable {step next : Array CodePoint → Nat → Nat → Prop} {language other : Language}

theorem comp (first : Spans step language) (second : Spans next other) (onward : Advances step)
    (further : Advances next) :
    Spans (fun text start finish => ∃ middle, step text start middle ∧ next text middle finish)
      (language.followedBy other) := by
  intro before word behind
  constructor
  · rintro ⟨middle, before_step, behind_step⟩
    have start_le := onward _ _ _ before_step
    have le_finish := further _ _ _ behind_step
    obtain ⟨count, rfl⟩ : ∃ count, middle = before.length + count :=
      Nat.exists_eq_add_of_le (by omega)
    -- the place in the middle cuts the word in two
    obtain ⟨start, rest, rfl, rfl⟩ : ∃ start rest, word = start ++ rest ∧ start.length = count :=
      ⟨word.take count, word.drop count, (List.take_append_drop count word).symm,
        List.length_take_of_le (by omega)⟩
    refine ⟨start, rest, rfl, (first _ _ _).mp ?_, (second _ _ _).mp ?_⟩
    · simpa only [List.append_assoc] using before_step
    · simpa only [List.append_assoc, List.length_append, Nat.add_assoc] using behind_step
  · rintro ⟨start, rest, rfl, before_word, behind_word⟩
    refine ⟨before.length + start.length, ?_, ?_⟩
    · simpa only [List.append_assoc] using (first _ _ _).mpr before_word
    · simpa only [List.append_assoc, List.length_append, Nat.add_assoc] using
        (second _ _ _).mpr behind_word

theorem power (spans : Spans step language) (onward : Advances step) (times : Nat) :
    Spans (fun text => Times (step text) times) (Language.Power language times) := by
  induction times with
  | zero =>
      intro before word behind
      refine Times.zero_iff.trans ?_
      constructor
      · intro same
        obtain rfl : word = [] := List.length_eq_zero_iff.mp (by omega)
        exact .zero before behind
      · rintro ⟨⟩
        rfl
  | succ times induction =>
      intro before word behind
      have further : Advances fun text => Times (step text) times :=
        fun text start finish steps => steps.forward fun first => onward text _ _ first
      refine Times.succ_iff.trans
        ((spans.comp induction onward further before word behind).trans ⟨?_, ?_⟩)
      · rintro ⟨start, rest, rfl, first, others⟩
        exact .succ first others
      · rintro ⟨⟩
        next start rest first others => exact ⟨start, rest, rfl, first, others⟩

end Spans

private theorem advances_stretch (pattern : Pattern) : Advances fun text => pattern.Stretch text :=
  fun _ _ _ stretch => stretch.forward

/-- A regular pattern has the stretches that a language describes. -/
structure Renders (pattern : Pattern) (language : Language) : Prop where
  /-- Two places are enough for the pattern. -/
  regular : pattern.isRegular = true
  /-- Its stretches are the words of the language. -/
  spans : Spans (fun text => pattern.Stretch text) language

namespace Renders

theorem one {cls : CharClass} {holds : CodePoint → Prop}
    (contains_iff : ∀ point, cls.contains point = true ↔ holds point) :
    Renders (.one cls) fun _ word _ => ∃ point, word = [point] ∧ holds point := by
  refine ⟨rfl, fun before word behind => ?_⟩
  simp only [Stretch, List.getElem?_toArray, contains_iff]
  constructor
  · rintro ⟨length_eq, point, found, held⟩
    obtain ⟨other, rfl⟩ := List.length_eq_one_iff.mp (Nat.add_left_cancel length_eq)
    obtain rfl : other = point := by simpa using found
    exact ⟨other, rfl, held⟩
  · rintro ⟨point, rfl, held⟩
    exact ⟨rfl, point, by simp, held⟩

theorem repeated {pattern : Pattern} {language : Language} (renders : Renders pattern language)
    (quantifier : Quantifier) :
    Renders (quantified pattern (some quantifier)) (language.quantified (some quantifier)) where
  regular := by
    have ordered : quantifier.repetition.most.all (quantifier.repetition.least ≤ ·) = true := by
      cases quantifier.repetition with
      | upTo least most ordered =>
          cases least with
          | none => simp [Repetition.least, Repetition.most]
          | some count => exact decide_eq_true (ordered count rfl)
      | _ => simp [Repetition.least, Repetition.most]
    have notPossessive : (quantifier.manner != .possessive) = true := by
      unfold Quantifier.manner
      cases quantifier.isLazy <;> rfl
    simp only [quantified, isRegular, notPossessive, ordered, renders.regular, Bool.and_self]
  spans := by
    intro before word behind
    have each := renders.spans.power (advances_stretch pattern)
    simp only [quantified, Stretch, Language.quantified]
    refine exists_congr fun times => and_congr_right fun _ => and_congr_right fun _ => ?_
    exact each times before word behind

theorem quantified {pattern : Pattern} {language : Language} (renders : Renders pattern language) :
    ∀ quantifier, Renders (Pattern.quantified pattern quantifier) (language.quantified quantifier)
  | none => renders
  | some quantifier => renders.repeated quantifier

end Renders

/-! ## Expressions -/

/-- Patterns have stretches one after the other. -/
def Along (text : Array CodePoint) : List Pattern → Nat → Nat → Prop
  | [], start, finish => start = finish
  | item :: items, start, finish =>
      ∃ middle, item.Stretch text start middle ∧ Along text items middle finish

private theorem advances_along (items : List Pattern) : Advances fun text => Along text items := by
  intro text start finish along
  induction items generalizing start with
  | nil => exact .inl along
  | cons item items induction =>
      obtain ⟨middle, first, others⟩ := along
      have onward := first.forward
      have further := induction _ others
      omega

private theorem along_concat_iff {text : Array CodePoint} {items : List Pattern} {last : Pattern}
    {start finish : Nat} :
    Along text (items ++ [last]) start finish ↔
      ∃ middle, Along text items start middle ∧ last.Stretch text middle finish := by
  induction items generalizing start with
  | nil => simp [Along]
  | cons item items induction =>
      simp only [List.cons_append, Along, induction]
      constructor
      · rintro ⟨next, first, middle, others, stretch⟩
        exact ⟨middle, ⟨next, first, others⟩, stretch⟩
      · rintro ⟨middle, ⟨next, first, others⟩, stretch⟩
        exact ⟨next, first, middle, others, stretch⟩

/-- Regular items have the stretches that a language describes. -/
structure RendersItems (items : List Pattern) (language : Language) : Prop where
  /-- Two places are enough for every item. -/
  regular : ∀ item ∈ items, item.isRegular = true
  /-- Their stretches in a row are the words of the language. -/
  spans : Spans (fun text => Along text items) language

namespace RendersItems

variable {item : Pattern} {items : List Pattern} {language other : Language}

theorem nil : RendersItems [] fun _ word _ => word = [] where
  regular := by simp
  spans := by
    intro before word behind
    simp only [Along, Nat.left_eq_add, List.length_eq_zero_iff]

theorem cons (first : Renders item language) (others : RendersItems items other) :
    RendersItems (item :: items) (language.followedBy other) where
  regular := List.forall_mem_cons.mpr ⟨first.regular, others.regular⟩
  spans := first.spans.comp others.spans (advances_stretch item) (advances_along items)

theorem place (place : Place) (others : RendersItems items language) :
    RendersItems (.anchor place.anchor :: items) fun before word behind =>
      place.Holds before (word ++ behind) ∧ language before word behind where
  regular := List.forall_mem_cons.mpr ⟨rfl, others.regular⟩
  spans := by
    intro before word behind
    have held_iff := place.anchor_holds_iff before (word ++ behind)
    rw [← List.append_assoc] at held_iff
    have inside : before.length ≤ (before ++ word ++ behind).toArray.size := by
      simp only [List.size_toArray, List.length_append]
      omega
    refine Iff.trans ?_ (and_congr held_iff (others.spans before word behind))
    constructor
    · rintro ⟨middle, ⟨rfl, -, held⟩, along⟩
      exact ⟨held, along⟩
    · rintro ⟨held, along⟩
      exact ⟨before.length, ⟨rfl, inside, held⟩, along⟩

end RendersItems

section Sequence

variable (items : List Pattern) (last : Pattern)

private theorem stretch_foldl_sequence_iff {text : Array CodePoint} {start finish : Nat} :
    (items.foldl (fun pattern earlier => .sequence earlier pattern) last).Stretch text
        start finish ↔ Along text (items.reverse ++ [last]) start finish := by
  induction items generalizing last with
  | nil => simp [Along]
  | cons item items induction =>
      rw [List.foldl_cons, induction, List.reverse_cons, along_concat_iff, along_concat_iff]
      simp only [along_concat_iff, Stretch]
      constructor
      · rintro ⟨middle, along, next, stretch, rest⟩
        exact ⟨next, ⟨middle, along, stretch⟩, rest⟩
      · rintro ⟨next, ⟨middle, along, stretch⟩, rest⟩
        exact ⟨middle, along, next, stretch, rest⟩

private theorem isRegular_foldl_sequence :
    (items.foldl (fun pattern earlier => .sequence earlier pattern) last).isRegular =
      (items.all isRegular && last.isRegular) := by
  induction items generalizing last with
  | nil => simp
  | cons item items induction =>
      rw [List.foldl_cons, induction, List.all_cons, isRegular, ← Bool.and_assoc,
        Bool.and_comm (items.all isRegular)]

end Sequence

theorem RendersItems.sequenceOf {items : List Pattern} {language : Language}
    (renders : RendersItems items language) :
    Renders (Parser.sequenceOf items.reverse) language := by
  rcases List.eq_nil_or_concat' items with rfl | ⟨front, last, rfl⟩
  · refine ⟨rfl, fun before word behind => Iff.trans ?_ (renders.spans before word behind)⟩
    have inside : before.length ≤ (before ++ word ++ behind).toArray.size := by
      simp only [List.size_toArray, List.length_append]
      omega
    exact and_iff_left inside
  · have regular := renders.regular
    have spans := renders.spans
    simp only [List.forall_mem_append, List.forall_mem_singleton] at regular
    rw [List.reverse_append, List.reverse_singleton, List.singleton_append, Parser.sequenceOf]
    refine ⟨?_, fun before word behind => Iff.trans ?_ (spans before word behind)⟩
    · rw [isRegular_foldl_sequence, List.all_reverse, List.all_eq_true.mpr regular.1, regular.2]
      rfl
    · refine (stretch_foldl_sequence_iff front.reverse last).trans ?_
      rw [List.reverse_reverse]

mutual

/-- A pattern that alternatives stand for has their words as its stretches. -/
theorem Expression.renders_of_standsFor : ∀ (expression : Expression) (pattern : Pattern),
    expression.StandsFor pattern → Renders pattern expression.Denotes
  | .last row, _, ⟨items, read, rfl⟩ => (row.renders_of_standsFor items read).sequenceOf
  | .either row others, _, ⟨items, other, read, others_read, rfl⟩ => by
      have first := (row.renders_of_standsFor items read).sequenceOf
      have second := others.renders_of_standsFor other others_read
      refine ⟨?_, fun before word behind => ?_⟩
      · rw [isRegular, first.regular, second.regular, Bool.and_self]
      · exact or_congr (first.spans before word behind) (second.spans before word behind)

/-- Patterns that items stand for have their words as their stretches. -/
theorem Row.renders_of_standsFor : ∀ (row : Row) (items : List Pattern),
    row.StandsFor items → RendersItems items row.Denotes
  | .done, _, rfl => .nil
  | .place place behind, _, ⟨others, read, rfl⟩ =>
      (behind.renders_of_standsFor others read).place place
  | .single single quantifier behind, _, ⟨others, read, rfl⟩ =>
      .cons ((Renders.one fun _ => single.cls_contains_iff).quantified quantifier)
        (behind.renders_of_standsFor others read)
  | .group _ body quantifier behind, _, ⟨number, inner, others, body_read, read, rfl⟩ => by
      have within := body.renders_of_standsFor inner body_read
      have enclosed : Renders (.group number inner) body.Denotes := ⟨within.regular, within.spans⟩
      exact .cons (enclosed.quantified quantifier) (behind.renders_of_standsFor others read)

end

/-- A pattern that alternatives stand for occurs in a string where one of their words stands. -/
theorem Expression.occursIn_iff_of_standsFor {expression : Expression} {pattern : Pattern}
    (read : expression.StandsFor pattern) (points : CodePoints) :
    pattern.occursIn points = true ↔ expression.OccursIn points := by
  have renders := expression.renders_of_standsFor pattern read
  rw [Pattern.occursIn_iff renders.regular]
  constructor
  · rintro ⟨start, inside, finish, stretch⟩
    have onward := stretch.forward
    rw [List.size_toArray] at onward
    obtain ⟨before, rest, rfl, rfl⟩ : ∃ before rest, points = before ++ rest ∧
        before.length = start :=
      ⟨points.take start, points.drop start, (List.take_append_drop start points).symm,
        List.length_take_of_le inside⟩
    obtain ⟨count, rfl⟩ : ∃ count, finish = before.length + count :=
      Nat.exists_eq_add_of_le (by omega)
    rw [List.length_append] at onward
    obtain ⟨word, behind, rfl, rfl⟩ : ∃ word behind, rest = word ++ behind ∧ word.length = count :=
      ⟨rest.take count, rest.drop count, (List.take_append_drop count rest).symm,
        List.length_take_of_le (by omega)⟩
    rw [← List.append_assoc] at stretch ⊢
    exact ⟨before, word, behind, rfl, (renders.spans before word behind).mp stretch⟩
  · rintro ⟨before, word, behind, rfl, denoted⟩
    refine ⟨before.length, ?_, _, (renders.spans before word behind).mpr denoted⟩
    simp only [List.length_append]
    omega

end Pattern
end DiscoveryFiles
