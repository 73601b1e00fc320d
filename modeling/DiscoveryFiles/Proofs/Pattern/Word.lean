import DiscoveryFiles.Proofs.Pattern.Search
import Mathlib.Data.List.Infix

/-!
# Words of a pattern

Without anchors it does not matter where a stretch lies.  Such a pattern has words, and its
stretches are the places where one of them stands.
-/

namespace DiscoveryFiles
namespace Pattern

/-- A word belongs to a pattern. -/
def HasWord : Pattern → CodePoints → Prop
  | empty, word => word = []
  | one cls, word => ∃ point, word = [point] ∧ cls.contains point = true
  | sequence first second, word =>
      ∃ before behind, word = before ++ behind ∧ first.HasWord before ∧ second.HasWord behind
  | either first second, word => first.HasWord word ∨ second.HasWord word
  | repeated _ body least most, word =>
      ∃ words : List CodePoints, least ≤ words.length ∧
        (∀ bound, most = some bound → words.length ≤ bound) ∧
        (∀ part ∈ words, body.HasWord part) ∧ word = words.flatten
  | group _ body, word => body.HasWord word
  | _, _ => False

/-- No part of a pattern looks at its place or beyond its words. -/
def isFree : Pattern → Bool
  | empty | one _ => true
  | sequence first second | either first second => first.isFree && second.isFree
  | repeated _ body _ _ => body.isFree
  | group _ body => body.isFree
  | _ => false

/-! ## Words at places -/

section Place

variable {points : CodePoints} {place : Nat}

private theorem singleton_stands_iff {point : CodePoint} :
    [point] <+: points.drop place ↔ points[place]? = some point := by
  rw [← List.head?_drop]
  cases points.drop place with
  | nil => simp
  | cons first rest => simp [List.cons_prefix_cons, eq_comm]

private theorem append_stands_iff {before behind : CodePoints} :
    before ++ behind <+: points.drop place ↔
      before <+: points.drop place ∧ behind <+: points.drop (place + before.length) := by
  constructor
  · intro stands
    have first := (List.prefix_append before behind).trans stands
    refine ⟨first, ?_⟩
    obtain ⟨rest, rest_eq⟩ := stands
    rw [← List.drop_drop, ← rest_eq, List.append_assoc, List.drop_left]
    exact List.prefix_append behind rest
  · rintro ⟨⟨rest, rest_eq⟩, stands⟩
    rw [← List.drop_drop, ← rest_eq, List.drop_left] at stands
    rw [← rest_eq]
    exact (List.prefix_append_right_inj before).mpr stands

private theorem add_length_le {word : CodePoints} (inside : place ≤ points.length)
    (stands : word <+: points.drop place) : place + word.length ≤ points.length := by
  have shorter := stands.length_le
  rw [List.length_drop] at shorter
  omega

end Place

/-! ## Stretches as words -/

/-- A relation leads from each place to behind the words that stand there. -/
def Spells (points : CodePoints) (step : Nat → Nat → Prop) (isWord : CodePoints → Prop) : Prop :=
  ∀ start finish, start ≤ points.length →
    (step start finish ↔
      ∃ word, isWord word ∧ word <+: points.drop start ∧ finish = start + word.length)

namespace Spells

variable {points : CodePoints} {step next : Nat → Nat → Prop} {isWord isOther : CodePoints → Prop}

theorem congr (spells : Spells points step isWord) (same : ∀ word, isWord word ↔ isOther word) :
    Spells points step isOther := by
  intro start finish inside
  simp only [spells start finish inside, same]

theorem comp (first : Spells points step isWord) (second : Spells points next isOther) :
    Spells points (fun start finish => ∃ middle, step start middle ∧ next middle finish)
      fun word => ∃ before behind, word = before ++ behind ∧ isWord before ∧ isOther behind := by
  intro start finish inside
  constructor
  · rintro ⟨middle, before_step, behind_step⟩
    obtain ⟨before, before_word, before_stands, rfl⟩ := (first _ _ inside).mp before_step
    have within := add_length_le inside before_stands
    obtain ⟨behind, behind_word, behind_stands, rfl⟩ := (second _ _ within).mp behind_step
    refine ⟨before ++ behind, ⟨before, behind, rfl, before_word, behind_word⟩,
      append_stands_iff.mpr ⟨before_stands, behind_stands⟩, ?_⟩
    rw [List.length_append, Nat.add_assoc]
  · rintro ⟨_, ⟨before, behind, rfl, before_word, behind_word⟩, stands, rfl⟩
    obtain ⟨before_stands, behind_stands⟩ := append_stands_iff.mp stands
    have within := add_length_le inside before_stands
    refine ⟨start + before.length,
      (first _ _ inside).mpr ⟨before, before_word, before_stands, rfl⟩,
      (second _ _ within).mpr ⟨behind, behind_word, behind_stands, ?_⟩⟩
    rw [List.length_append, Nat.add_assoc]

theorem stay : Spells points (fun start finish => start = finish) fun word => word = [] := by
  intro start finish inside
  constructor
  · rintro rfl
    exact ⟨[], rfl, List.nil_prefix, rfl⟩
  · rintro ⟨_, rfl, -, rfl⟩
    rfl

theorem times (spells : Spells points step isWord) (times : Nat) :
    Spells points (Times step times) fun word =>
      ∃ words : List CodePoints, words.length = times ∧ (∀ part ∈ words, isWord part) ∧
        word = words.flatten := by
  induction times with
  | zero =>
      intro start finish inside
      rw [Times.zero_iff]
      refine (stay.congr fun word => ?_) start finish inside
      constructor
      · rintro rfl
        exact ⟨[], rfl, by simp, rfl⟩
      · rintro ⟨words, none_left, -, rfl⟩
        obtain rfl := List.length_eq_zero_iff.mp none_left
        rfl
  | succ times induction =>
      intro start finish inside
      rw [Times.succ_iff]
      refine ((spells.comp induction).congr fun word => ?_) start finish inside
      constructor
      · rintro ⟨before, _, rfl, before_word, words, rfl, others, rfl⟩
        exact ⟨before :: words, rfl, List.forall_mem_cons.mpr ⟨before_word, others⟩, rfl⟩
      · rintro ⟨words, count, all, rfl⟩
        obtain ⟨before, others, rfl⟩ := List.exists_cons_of_length_eq_add_one count
        obtain ⟨before_word, others_words⟩ := List.forall_mem_cons.mp all
        exact ⟨before, others.flatten, rfl, before_word, others, Nat.succ.inj count, others_words,
          rfl⟩

end Spells

/-- A stretch of a free pattern is a place where one of its words stands. -/
theorem stretch_spells {pattern : Pattern} (free : pattern.isFree = true) (points : CodePoints) :
    Spells points (pattern.Stretch points.toArray) pattern.HasWord := by
  induction pattern with
  | empty =>
      intro start finish inside
      simp only [Stretch, List.size_toArray, inside, and_true]
      exact Spells.stay start finish inside
  | one cls =>
      intro start finish inside
      simp only [Stretch, HasWord, List.getElem?_toArray, ← singleton_stands_iff]
      constructor
      · rintro ⟨rfl, point, stands, held⟩
        exact ⟨[point], ⟨point, rfl, held⟩, stands, rfl⟩
      · rintro ⟨_, ⟨point, rfl, held⟩, stands, rfl⟩
        exact ⟨rfl, point, stands, held⟩
  | sequence first second first_spells second_spells =>
      simp only [isFree, Bool.and_eq_true] at free
      exact (first_spells free.1).comp (second_spells free.2)
  | either first second first_spells second_spells =>
      simp only [isFree, Bool.and_eq_true] at free
      intro start finish inside
      simp only [Stretch, HasWord, first_spells free.1 start finish inside,
        second_spells free.2 start finish inside, or_and_right, exists_or]
  | repeated manner body least most body_spells =>
      intro start finish inside
      have each := (body_spells free).times
      simp only [Stretch, HasWord]
      constructor
      · rintro ⟨times, enough, few, steps⟩
        obtain ⟨_, ⟨words, rfl, all, rfl⟩, stands, rfl⟩ := (each times _ _ inside).mp steps
        exact ⟨_, ⟨words, enough, few, all, rfl⟩, stands, rfl⟩
      · rintro ⟨_, ⟨words, enough, few, all, rfl⟩, stands, rfl⟩
        exact ⟨words.length, enough, few,
          (each _ _ _ inside).mpr ⟨_, ⟨words, rfl, all, rfl⟩, stands, rfl⟩⟩
  | group number body body_spells => exact body_spells free
  | anchor | atomic | look | same | choose => cases free

/-- A free pattern behind the start of the string occurs when one of its words comes first. -/
theorem stretch_at_start_iff {pattern : Pattern} (free : pattern.isFree = true)
    (points : CodePoints) :
    (∃ start ≤ points.length, ∃ finish,
        (sequence (anchor .start) pattern).Stretch points.toArray start finish) ↔
      ∃ word, pattern.HasWord word ∧ word <+: points := by
  have spells := stretch_spells free points
  constructor
  · rintro ⟨start, inside, finish, middle, ⟨rfl, -, first⟩, stretch⟩
    obtain rfl := beq_iff_eq.mp first
    obtain ⟨word, isWord, stands, -⟩ := (spells _ _ inside).mp stretch
    exact ⟨word, isWord, stands⟩
  · rintro ⟨word, isWord, stands⟩
    exact ⟨0, Nat.zero_le _, word.length, 0, ⟨rfl, Nat.zero_le _, rfl⟩,
      (spells _ _ (Nat.zero_le _)).mpr ⟨word, isWord, stands, (Nat.zero_add _).symm⟩⟩

/-! ## Patterns up to the end of the last line -/

/-- It does not matter how a row of three patterns is put together. -/
theorem stretch_sequence_assoc (text : Array CodePoint) (first second third : Pattern) :
    (sequence first (sequence second third)).Stretch text =
      (sequence (sequence first second) third).Stretch text := by
  funext start finish
  apply propext
  constructor
  · rintro ⟨middle, before, next, between, behind⟩
    exact ⟨next, ⟨middle, before, between⟩, behind⟩
  · rintro ⟨next, ⟨middle, before, between⟩, behind⟩
    exact ⟨middle, before, next, between, behind⟩

theorem stretch_sequence_congr {text : Array CodePoint} {second other : Pattern}
    (first : Pattern) (same : second.Stretch text = other.Stretch text) :
    (sequence first second).Stretch text = (sequence first other).Stretch text := by
  funext start finish
  simp only [Stretch, same]

/-- The last line ends where nothing follows, or nothing but a line feed. -/
theorem lastLineEnd_holds_iff {points : CodePoints} {place : Nat} (inside : place ≤ points.length) :
    Anchor.lastLineEnd.holds points.toArray place = true ↔
      points.drop place = [] ∨ points.drop place = [.scalar '\n'] := by
  simp only [Anchor.holds, feedAt, List.size_toArray, List.getElem?_toArray, ← List.head?_drop,
    Bool.or_eq_true, Bool.and_eq_true, beq_iff_eq]
  have length_eq : (points.drop place).length = points.length - place := List.length_drop
  generalize points.drop place = rest at length_eq ⊢
  rcases rest with _ | ⟨point, _ | ⟨next, rest⟩⟩
  · simp only [List.length_nil] at length_eq
    simp only [List.head?_nil, reduceCtorEq, and_false, or_false, iff_true]
    omega
  · simp only [List.length_singleton] at length_eq
    have before : place ≠ points.length := by omega
    have last : place + 1 = points.length := by omega
    simp [before, last]
  · simp only [List.length_cons] at length_eq
    have before : place ≠ points.length := by omega
    have notLast : place + 1 ≠ points.length := by omega
    simp [before, notLast]

/-- A free pattern between the start of the string and the end of its last line has a stretch when
the string is one of its words, to which a line feed may be added. -/
theorem stretch_to_lastLineEnd_iff {pattern : Pattern} (free : pattern.isFree = true)
    (points : CodePoints) :
    (∃ start ≤ points.length, ∃ finish,
        (sequence (anchor .start) (sequence pattern (anchor .lastLineEnd))).Stretch points.toArray
          start finish) ↔
      ∃ word, pattern.HasWord word ∧ (points = word ∨ points = word ++ [.scalar '\n']) := by
  have spells := stretch_spells free points
  have ends_iff {word : CodePoints} (stands : word <+: points) :
      Anchor.lastLineEnd.holds points.toArray word.length = true ↔
        points = word ∨ points = word ++ [.scalar '\n'] := by
    rw [lastLineEnd_holds_iff stands.length_le]
    obtain ⟨rest, rfl⟩ := stands
    simp
  constructor
  · rintro ⟨start, inside, finish, _, ⟨rfl, -, first⟩, middle, stretch, rfl, -, ended⟩
    obtain rfl := beq_iff_eq.mp first
    obtain ⟨word, isWord, stands, rfl⟩ := (spells _ _ inside).mp stretch
    rw [Nat.zero_add] at ended
    exact ⟨word, isWord, (ends_iff stands).mp ended⟩
  · rintro ⟨word, isWord, whole⟩
    have stands : word <+: points := by
      rcases whole with rfl | rfl
      · exact List.prefix_refl points
      · exact List.prefix_append word _
    refine ⟨0, Nat.zero_le _, word.length, 0, ⟨rfl, Nat.zero_le _, rfl⟩, word.length, ?_, rfl, ?_,
      (ends_iff stands).mpr whole⟩
    · exact (spells _ _ (Nat.zero_le _)).mpr ⟨word, isWord, stands, (Nat.zero_add _).symm⟩
    · simpa using stands.length_le

/-! ## Words of common patterns -/

/-- The pattern of one character. -/
def letter (c : Char) : Pattern :=
  .one (.single .strict c.toNat)

/-- The pattern of some words and then another pattern. -/
def spelled (words : Text) (behind : Pattern) : Pattern :=
  words.foldr (fun c rest => .sequence (letter c) rest) behind

section Common

variable {word : CodePoints}

theorem single_contains_iff {c : Char} {point : CodePoint} :
    (CharClass.single .strict c.toNat).contains point = true ↔ point = .scalar c := by
  have number_iff : point.number = c.toNat ↔ point = .scalar c := by
    cases point with
    | scalar other => simp [CodePoint.number, Char.toNat_inj]
    | surrogate offset =>
        have valid := c.valid
        simp only [UInt32.isValidChar, Nat.isValidChar] at valid
        have inside := offset.isLt
        simp only [CodePoint.number, reduceCtorEq, iff_false]
        have number_eq : c.toNat = c.val.toNat := rfl
        omega
  simp only [CharClass.single, CharClass.contains, ClassPart.contains, List.any_cons, List.any_nil,
    Bool.or_false, Folding.variants_strict, Bool.false_bne, Bool.and_eq_true, decide_eq_true_eq]
  rw [← number_iff]
  omega

theorem letter_hasWord_iff {c : Char} : (letter c).HasWord word ↔ word = [.scalar c] := by
  simp [letter, HasWord, single_contains_iff]

theorem sequence_hasWord_iff {first second : Pattern} :
    (sequence first second).HasWord word ↔
      ∃ before behind, word = before ++ behind ∧ first.HasWord before ∧ second.HasWord behind :=
  Iff.rfl

theorem spelled_hasWord_iff {words : Text} {behind : Pattern} :
    (spelled words behind).HasWord word ↔
      ∃ rest, word = CodePoints.ofText words ++ rest ∧ behind.HasWord rest := by
  induction words generalizing word with
  | nil => simp [spelled, CodePoints.ofText]
  | cons c words induction =>
      have unfolded : spelled (c :: words) behind =
          .sequence (letter c) (spelled words behind) := rfl
      simp only [unfolded, HasWord, letter_hasWord_iff]
      constructor
      · rintro ⟨_, others, rfl, rfl, isWord⟩
        obtain ⟨rest, rest_eq, isWord⟩ := induction.mp isWord
        exact ⟨rest, congrArg _ rest_eq, isWord⟩
      · rintro ⟨rest, rfl, isWord⟩
        exact ⟨[.scalar c], CodePoints.ofText words ++ rest, rfl, rfl,
          induction.mpr ⟨rest, rfl, isWord⟩⟩

theorem optional_hasWord_iff {manner : Manner} {body : Pattern} :
    (repeated manner body 0 (some 1)).HasWord word ↔ word = [] ∨ body.HasWord word := by
  constructor
  · rintro ⟨words, -, few, all, rfl⟩
    rcases words with _ | ⟨part, _ | ⟨other, others⟩⟩
    · exact .inl rfl
    · exact .inr (by simpa using all)
    · exact absurd (few 1 rfl) (by simp)
  · rintro (rfl | isWord)
    · exact ⟨[], by simp⟩
    · exact ⟨[word], by simpa using isWord⟩

/-- Parts of one character each are as many as the characters. -/
theorem length_flatten_of_single {cls : CharClass} {words : List CodePoints}
    (all : ∀ part ∈ words, (one cls).HasWord part) :
    words.flatten.length = words.length ∧ ∀ point ∈ words.flatten, cls.contains point = true := by
  induction words with
  | nil => simp
  | cons part words induction =>
      obtain ⟨⟨point, rfl, held⟩, others⟩ := List.forall_mem_cons.mp all
      obtain ⟨count, others_held⟩ := induction others
      refine ⟨?_, List.forall_mem_cons.mpr ⟨held, others_held⟩⟩
      rw [List.flatten_cons, List.length_append, count, List.length_singleton, List.length_cons,
        Nat.add_comm]

theorem repeated_one_hasWord_iff {manner : Manner} {cls : CharClass} {least : Nat}
    {most : Option Nat} :
    (repeated manner (one cls) least most).HasWord word ↔
      least ≤ word.length ∧ (∀ bound, most = some bound → word.length ≤ bound) ∧
        ∀ point ∈ word, cls.contains point = true := by
  constructor
  · rintro ⟨words, enough, few, all, rfl⟩
    obtain ⟨count, held⟩ := length_flatten_of_single all
    rw [count]
    exact ⟨enough, few, held⟩
  · rintro ⟨enough, few, held⟩
    refine ⟨word.map ([·]), ?_, ?_, ?_, ?_⟩
    · rwa [List.length_map]
    · rwa [List.length_map]
    · intro part member
      obtain ⟨point, inside, rfl⟩ := List.mem_map.mp member
      exact ⟨point, rfl, held point inside⟩
    · rw [← List.flatMap_def, List.flatMap_singleton']

end Common

end Pattern
end DiscoveryFiles
