import DiscoveryFiles.Proofs.Text.Lines
import DiscoveryFiles.Proofs.Text.Lowercase
import DiscoveryFiles.Proofs.Text.Part
import DiscoveryFiles.Proofs.Text.Utf8

/-!
# Bytes divided into characters and damaged runs

Where no character stands in some bytes, the longest start of one is a damaged run, or else a single
byte.  There is one way to divide bytes like that, and it is the one that the reader of bytes takes.
-/

namespace DiscoveryFiles
namespace Utf8

/-! ## Divisions -/

/-- Bytes are the first ones of a character. -/
def StartsChar (bytes : List UInt8) : Prop :=
  ∃ c, bytes <+: String.utf8EncodeChar c

/-- A run of bytes in front of further bytes is damaged: no character stands there, and the run is
the longest start of one, but at least one byte. -/
structure IsDamaged (run rest : List UInt8) : Prop where
  /-- There is a byte. -/
  some_byte : run ≠ []
  /-- No character stands there. -/
  no_char : ∀ c, ¬ String.utf8EncodeChar c <+: run ++ rest
  /-- More than one byte are the first ones of a character. -/
  starts : run.length = 1 ∨ StartsChar run
  /-- No more bytes are the first ones of a character. -/
  longest : ∀ longer, longer <+: run ++ rest → StartsChar longer → longer.length ≤ run.length

/-- What is wrong with a run of bytes in front of further bytes. -/
def Damage.Fits (run rest : List UInt8) : Damage → Prop
  | start => ¬ StartsChar run
  | continuation => StartsChar run ∧ rest ≠ []
  | ending => StartsChar run ∧ rest = []

/-- Bytes are divided into characters and damaged runs. -/
inductive Divides : List UInt8 → List Piece → Prop where
  /-- No bytes. -/
  | nil : Divides [] []
  /-- A character. -/
  | char {rest : List UInt8} {pieces : List Piece} (c : Char) (behind : Divides rest pieces) :
      Divides (String.utf8EncodeChar c ++ rest) (.char c :: pieces)
  /-- A damaged run. -/
  | damaged {run rest : List UInt8} {damage : Damage} {pieces : List Piece}
      (here : IsDamaged run rest) (fits : damage.Fits run rest) (behind : Divides rest pieces) :
      Divides (run ++ rest) (.damaged run damage :: pieces)

/-! ## One division at most -/

/-- No character starts with another one. -/
theorem eq_of_utf8EncodeChar_append {c d : Char} {rest other : List UInt8}
    (same : String.utf8EncodeChar c ++ rest = String.utf8EncodeChar d ++ other) :
    c = d ∧ rest = other := by
  have read := congrArg (piecesFrom none) same
  rw [piecesFrom_utf8EncodeChar, piecesFrom_utf8EncodeChar, List.cons.injEq, Piece.char.injEq]
    at read
  obtain ⟨rfl, -⟩ := read
  exact ⟨rfl, List.append_cancel_left same⟩

theorem IsDamaged.length_le {run rest other behind : List UInt8} (damaged : IsDamaged run rest)
    (others : IsDamaged other behind) (same : run ++ rest = other ++ behind) :
    other.length ≤ run.length := by
  rcases others.starts with single | starts
  · rw [single]
    exact List.length_pos_iff.mpr damaged.some_byte
  · exact damaged.longest other (same ▸ List.prefix_append other behind) starts

private theorem IsDamaged.eq_of_append {run rest other behind : List UInt8}
    (damaged : IsDamaged run rest)
    (others : IsDamaged other behind) (same : run ++ rest = other ++ behind) :
    run = other ∧ rest = behind :=
  List.append_inj same <| Nat.le_antisymm (others.length_le damaged same.symm)
    (damaged.length_le others same)

theorem Damage.Fits.eq {run rest : List UInt8} {damage other : Damage}
    (fits : damage.Fits run rest) (others : other.Fits run rest) : damage = other := by
  cases damage <;> cases other <;> simp_all [Damage.Fits]

theorem Divides.eq {bytes : List UInt8} {pieces others : List Piece}
    (divides : Divides bytes pieces) (again : Divides bytes others) : pieces = others := by
  induction divides generalizing others with
  | nil =>
      generalize bytes_eq : [] = bytes at again
      cases again with
      | nil => rfl
      | char c behind =>
          have some_byte := String.utf8EncodeChar_ne_nil (c := c)
          simp [some_byte] at bytes_eq
      | damaged here => simp [here.some_byte] at bytes_eq
  | @char rest pieces c behind induction =>
      generalize bytes_eq : String.utf8EncodeChar c ++ rest = bytes at again
      cases again with
      | nil => simp [String.utf8EncodeChar_ne_nil] at bytes_eq
      | char d other =>
          obtain ⟨rfl, rfl⟩ := eq_of_utf8EncodeChar_append bytes_eq
          rw [induction other]
      | damaged here => exact absurd (bytes_eq ▸ List.prefix_append _ rest) (here.no_char c)
  | @damaged run rest damage pieces here fits behind induction =>
      generalize bytes_eq : run ++ rest = bytes at again
      cases again with
      | nil => simp [here.some_byte] at bytes_eq
      | char c other => exact absurd (bytes_eq ▸ List.prefix_append _ _) (here.no_char c)
      | damaged there others other =>
          obtain ⟨rfl, rfl⟩ := here.eq_of_append there bytes_eq
          rw [fits.eq others, induction other]

/-! ## Characters put together -/

section Characters

variable {first second third fourth : UInt8}

private theorem utf8EncodeChar_one (below : first.toNat < 0x80) :
    String.utf8EncodeChar (Char.ofNat first.toNat) = [first] := by
  have number_eq : (Char.ofNat first.toNat).val.toNat = first.toNat :=
    (Char.toNat_ofNat _).trans (if_pos (.inl (by omega)))
  rw [String.utf8EncodeChar]
  simp only [number_eq, show first.toNat ≤ 127 by omega, if_true, UInt8.ofNat_toNat]

private theorem utf8EncodeChar_two (least : 0xC2 ≤ first.toNat) (below : first.toNat < 0xE0)
    (low : 0x80 ≤ second.toNat) (high : second.toNat ≤ 0xBF) :
    String.utf8EncodeChar
        (Char.ofNat ((first.toNat - 0xC0) * 64 + (second.toNat - 0x80))) = [first, second] := by
  generalize n_eq : (first.toNat - 0xC0) * 64 + (second.toNat - 0x80) = n
  have number_eq : (Char.ofNat n).val.toNat = n :=
    (Char.toNat_ofNat n).trans (if_pos (.inl (by omega)))
  have first_eq : n / 64 % 32 + 192 = first.toNat := by omega
  have second_eq : n % 64 + 128 = second.toNat := by omega
  rw [String.utf8EncodeChar]
  simp only [number_eq, show ¬ n ≤ 127 by omega, show n ≤ 2047 by omega, if_true, if_false,
    first_eq, second_eq, UInt8.ofNat_toNat]

private theorem utf8EncodeChar_three (least : 0xE0 ≤ first.toNat) (below : first.toNat < 0xF0)
    (low : (if first.toNat = 0xE0 then 0xA0 else 0x80) ≤ second.toNat)
    (high : second.toNat ≤ if first.toNat = 0xED then 0x9F else 0xBF)
    (third_low : 0x80 ≤ third.toNat) (third_high : third.toNat ≤ 0xBF) :
    String.utf8EncodeChar
        (Char.ofNat (((first.toNat - 0xE0) * 64 + (second.toNat - 0x80)) * 64 +
          (third.toNat - 0x80))) = [first, second, third] := by
  generalize n_eq : ((first.toNat - 0xE0) * 64 + (second.toNat - 0x80)) * 64 +
    (third.toNat - 0x80) = n
  have second_low : 0x80 ≤ second.toNat := by split at low <;> omega
  have second_high : second.toNat ≤ 0xBF := by split at high <;> omega
  have large : ¬ n ≤ 2047 := by split at low <;> omega
  have valid : n.isValidChar := by split at high <;> simp only [Nat.isValidChar] <;> omega
  have number_eq : (Char.ofNat n).val.toNat = n := (Char.toNat_ofNat n).trans (if_pos valid)
  have first_eq : n / 4096 % 16 + 224 = first.toNat := by omega
  have second_eq : n / 64 % 64 + 128 = second.toNat := by omega
  have third_eq : n % 64 + 128 = third.toNat := by omega
  rw [String.utf8EncodeChar]
  simp only [number_eq, show ¬ n ≤ 127 by omega, large, show n ≤ 65535 by omega, if_true, if_false,
    first_eq, second_eq, third_eq, UInt8.ofNat_toNat]

private theorem utf8EncodeChar_four (least : 0xF0 ≤ first.toNat) (below : first.toNat < 0xF5)
    (low : (if first.toNat = 0xF0 then 0x90 else 0x80) ≤ second.toNat)
    (high : second.toNat ≤ if first.toNat = 0xF4 then 0x8F else 0xBF)
    (third_low : 0x80 ≤ third.toNat) (third_high : third.toNat ≤ 0xBF)
    (fourth_low : 0x80 ≤ fourth.toNat) (fourth_high : fourth.toNat ≤ 0xBF) :
    String.utf8EncodeChar
        (Char.ofNat ((((first.toNat - 0xF0) * 64 + (second.toNat - 0x80)) * 64 +
          (third.toNat - 0x80)) * 64 + (fourth.toNat - 0x80))) =
      [first, second, third, fourth] := by
  generalize n_eq : (((first.toNat - 0xF0) * 64 + (second.toNat - 0x80)) * 64 +
    (third.toNat - 0x80)) * 64 + (fourth.toNat - 0x80) = n
  have second_low : 0x80 ≤ second.toNat := by split at low <;> omega
  have second_high : second.toNat ≤ 0xBF := by split at high <;> omega
  have large : ¬ n ≤ 65535 := by split at low <;> omega
  have below_limit : n < 0x110000 := by split at high <;> omega
  have number_eq : (Char.ofNat n).val.toNat = n :=
    (Char.toNat_ofNat n).trans (if_pos (.inr ⟨by omega, below_limit⟩))
  have first_eq : n / 262144 % 8 + 240 = first.toNat := by omega
  have second_eq : n / 4096 % 64 + 128 = second.toNat := by omega
  have third_eq : n / 64 % 64 + 128 = third.toNat := by omega
  have fourth_eq : n % 64 + 128 = fourth.toNat := by omega
  rw [String.utf8EncodeChar]
  simp only [number_eq, show ¬ n ≤ 127 by omega, show ¬ n ≤ 2047 by omega, large, if_false,
    first_eq, second_eq, third_eq, fourth_eq, UInt8.ofNat_toNat]

end Characters

/-! ## Unfinished characters -/

/-- The unfinished characters that the machine comes to: a first byte, and bytes that continue
it. -/
inductive Reached : Unfinished → Prop where
  /-- The first of two bytes. -/
  | two {byte : UInt8} (least : 0xC2 ≤ byte.toNat) (below : byte.toNat < 0xE0) :
      Reached ⟨[byte], byte.toNat - 0xC0, 0x80, 0xBF, 0⟩
  /-- The first of three bytes. -/
  | three {byte : UInt8} (least : 0xE0 ≤ byte.toNat) (below : byte.toNat < 0xF0) :
      Reached ⟨[byte], byte.toNat - 0xE0, if byte.toNat = 0xE0 then 0xA0 else 0x80,
        if byte.toNat = 0xED then 0x9F else 0xBF, 1⟩
  /-- The first of four bytes. -/
  | four {byte : UInt8} (least : 0xF0 ≤ byte.toNat) (below : byte.toNat < 0xF5) :
      Reached ⟨[byte], byte.toNat - 0xF0, if byte.toNat = 0xF0 then 0x90 else 0x80,
        if byte.toNat = 0xF4 then 0x8F else 0xBF, 2⟩
  /-- A byte before the last. -/
  | inner {seen : List UInt8} {value low high more : Nat} {byte : UInt8}
      (before : Reached ⟨seen, value, low, high, more + 1⟩) (least : low ≤ byte.toNat)
      (most : byte.toNat ≤ high) :
      Reached ⟨byte :: seen, value * 64 + (byte.toNat - 0x80), 0x80, 0xBF, more⟩

section Reached

variable {char : Unfinished} {byte : UInt8}

private theorem Reached.more_le (reached : Reached char) : char.more ≤ 2 := by
  induction reached with
  | inner _ _ _ induction =>
      simp only at induction ⊢
      omega
  | _ => simp

theorem Reached.bounds (reached : Reached char) :
    0x80 ≤ char.low ∧ char.low ≤ char.high ∧ char.high ≤ 0xBF := by
  cases reached with
  | two | inner => simp
  | three | four =>
      simp only
      split <;> split <;> omega

private theorem Reached.seen_ne_nil (reached : Reached char) : char.seen.reverse ≠ [] := by
  cases reached <;> simp

/-- The bytes of an unfinished character and its last byte are those of the character. -/
theorem Reached.utf8EncodeChar_eq (reached : Reached char) (last : char.more = 0)
    (low : char.low ≤ byte.toNat) (high : byte.toNat ≤ char.high) :
    String.utf8EncodeChar (Char.ofNat (char.value * 64 + (byte.toNat - 0x80))) =
      char.seen.reverse ++ [byte] := by
  cases reached with
  | two least below => exact utf8EncodeChar_two least below low high
  | three | four => cases last
  | inner before least most =>
      subst last
      cases before with
      | three first below => exact utf8EncodeChar_three first below least most low high
      | inner before first_least first_most =>
          cases before with
          | four first below =>
              exact utf8EncodeChar_four first below first_least first_most least most low high
          | inner before =>
              have bounded := before.more_le
              simp only at bounded
              omega

/-- Reading the bytes of an unfinished character leads to it. -/
theorem Reached.piecesFrom_eq (reached : Reached char) (rest : List UInt8) :
    piecesFrom none (char.seen.reverse ++ rest) = piecesFrom (some char) rest := by
  induction reached generalizing rest with
  | two least below =>
      rw [List.reverse_singleton, List.singleton_append, piecesFrom_none_cons,
        start_two least below, List.nil_append]
  | three least below =>
      rw [List.reverse_singleton, List.singleton_append, piecesFrom_none_cons,
        start_three least below, List.nil_append]
  | four least below =>
      rw [List.reverse_singleton, List.singleton_append, piecesFrom_none_cons,
        start_four least below, List.nil_append]
  | @inner seen value low high more byte _ least most induction =>
      rw [List.reverse_cons, List.append_assoc, List.singleton_append, induction,
        piecesFrom_inner least most rest rfl]

/-- Every unfinished character can be finished. -/
theorem Reached.startsChar (reached : Reached char) : StartsChar char.seen.reverse := by
  obtain ⟨seen, value, low, high, more⟩ := char
  induction more generalizing seen value low high with
  | zero =>
      obtain ⟨-, low_le, high_le⟩ := reached.bounds
      have byte_eq := UInt8.toNat_ofNat_of_lt' <| show low < 256 by
        simp only at low_le high_le
        omega
      exact ⟨_, [UInt8.ofNat low], (reached.utf8EncodeChar_eq rfl (Nat.le_of_eq byte_eq.symm)
        (byte_eq.symm ▸ low_le)).symm⟩
  | succ more induction =>
      obtain ⟨-, low_le, high_le⟩ := reached.bounds
      have byte_eq := UInt8.toNat_ofNat_of_lt' <| show low < 256 by
        simp only at low_le high_le
        omega
      obtain ⟨c, longer⟩ := induction _ _ _ _ (reached.inner (Nat.le_of_eq byte_eq.symm)
        (byte_eq.symm ▸ low_le))
      rw [List.reverse_cons] at longer
      exact ⟨c, (List.prefix_append _ _).trans longer⟩

end Reached

/-! ## The division that the machine makes -/

/-- The machine finds damage in front of bytes whatever follows the first of them. -/
def Breaks (run rest : List UInt8) : Prop :=
  ∀ others : List UInt8, others.head? = rest.head? →
    ∃ broken damage pieces, piecesFrom none (run ++ others) = .damaged broken damage :: pieces

section Breaks

variable {run rest : List UInt8}

private theorem Breaks.no_char (breaks : Breaks run rest) (c : Char) :
    ¬ String.utf8EncodeChar c <+: run ++ rest := by
  rintro ⟨behind, bytes_eq⟩
  obtain ⟨broken, damage, pieces, found⟩ := breaks rest rfl
  rw [← bytes_eq, piecesFrom_utf8EncodeChar] at found
  cases found

/-- If the machine finds damage behind some bytes, no character goes on there. -/
theorem Breaks.longest (breaks : Breaks run rest) {longer : List UInt8}
    (there : longer <+: run ++ rest) (starts : StartsChar longer) : longer.length ≤ run.length := by
  by_contra not_le
  obtain ⟨c, behind, char_eq⟩ := starts
  obtain ⟨more, rfl⟩ : run <+: longer :=
    List.prefix_of_prefix_length_le (List.prefix_append run rest) there (by omega)
  have more_ne : more ≠ [] := by
    rintro rfl
    simp at not_le
  obtain ⟨rest, rfl⟩ := (List.prefix_append_right_inj run).mp there
  have same_head : (more ++ behind).head? = (more ++ rest).head? := by
    rw [List.head?_append_of_ne_nil _ more_ne, List.head?_append_of_ne_nil _ more_ne]
  obtain ⟨broken, damage, pieces, found⟩ := breaks (more ++ behind) same_head
  rw [← List.append_assoc, char_eq, ← List.append_nil (String.utf8EncodeChar c),
    piecesFrom_utf8EncodeChar] at found
  cases found

private theorem Breaks.isDamaged (breaks : Breaks run rest) (some_byte : run ≠ [])
    (starts : run.length = 1 ∨ StartsChar run) : IsDamaged run rest :=
  ⟨some_byte, breaks.no_char, starts, fun _ there starts => breaks.longest there starts⟩

end Breaks

/-- A byte that does not belong to an earlier one is a character, damage, or the first byte of an
unfinished character. -/
theorem start_cases (byte : UInt8) :
    (start byte = ([.char (Char.ofNat byte.toNat)], none) ∧
        String.utf8EncodeChar (Char.ofNat byte.toNat) = [byte]) ∨
      start byte = ([.damaged [byte] .start], none) ∨
      ∃ char, start byte = ([], some char) ∧ Reached char ∧ char.seen = [byte] := by
  have below_limit := byte.toNat_lt
  by_cases one : byte.toNat < 0x80
  · exact .inl ⟨start_one one, utf8EncodeChar_one one⟩
  by_cases two : 0xC2 ≤ byte.toNat ∧ byte.toNat < 0xE0
  · exact .inr (.inr ⟨_, start_two two.1 two.2, .two two.1 two.2, rfl⟩)
  by_cases three : 0xE0 ≤ byte.toNat ∧ byte.toNat < 0xF0
  · exact .inr (.inr ⟨_, start_three three.1 three.2, .three three.1 three.2, rfl⟩)
  by_cases four : 0xF0 ≤ byte.toNat ∧ byte.toNat < 0xF5
  · exact .inr (.inr ⟨_, start_four four.1 four.2, .four four.1 four.2, rfl⟩)
  · refine .inr (.inl ?_)
    by_cases low : byte.toNat < 0xC2
    · simp only [start, one, low, if_true, if_false]
    · simp only [start, one, low, show ¬ byte.toNat < 0xE0 by omega,
        show ¬ byte.toNat < 0xF0 by omega, show ¬ byte.toNat < 0xF5 by omega, if_false]

/-- A byte that does not continue an unfinished character is read as if nothing preceded it. -/
theorem piecesFrom_broken {char : Unfinished} {byte : UInt8}
    (outside : ¬ (char.low ≤ byte.toNat ∧ byte.toNat ≤ char.high)) (rest : List UInt8) :
    piecesFrom (some char) (byte :: rest) =
      .damaged char.seen.reverse .continuation :: piecesFrom none (byte :: rest) := by
  rw [piecesFrom_none_cons, piecesFrom]
  simp only [advance, outside, if_false, List.cons_append]

private theorem divides_start {byte : UInt8} {rest : List UInt8}
    (behind : Divides rest (piecesFrom none rest))
    (within : ∀ char, Reached char →
      Divides (char.seen.reverse ++ rest) (piecesFrom (some char) rest)) :
    Divides (byte :: rest) (piecesFrom none (byte :: rest)) := by
  rcases start_cases byte with ⟨started, char_eq⟩ | started | ⟨char, started, reached, seen_eq⟩
  · rw [piecesFrom_none_cons, started, List.singleton_append, ← List.singleton_append, ← char_eq]
    exact .char _ behind
  · have broken (others : List UInt8) :
        piecesFrom none ([byte] ++ others) = .damaged [byte] .start :: piecesFrom none others := by
      rw [List.singleton_append, piecesFrom_none_cons, started, List.singleton_append]
    have breaks (rest : List UInt8) : Breaks [byte] rest := fun others _ => ⟨_, _, _, broken others⟩
    have fits : ¬ StartsChar [byte] := by
      rintro ⟨c, more, char_eq⟩
      exact (breaks more).no_char c ⟨[], by rw [List.append_nil, char_eq]⟩
    rw [← List.singleton_append, broken]
    exact .damaged ((breaks rest).isDamaged (List.cons_ne_nil _ _) (.inl rfl)) fits behind
  · have inside := within char reached
    rw [seen_eq, List.reverse_singleton, List.singleton_append] at inside
    rw [piecesFrom_none_cons, started, List.nil_append]
    exact inside

/-- The machine divides all bytes, also those behind an unfinished character. -/
theorem divides_piecesFrom (bytes : List UInt8) :
    Divides bytes (piecesFrom none bytes) ∧ ∀ char, Reached char →
      Divides (char.seen.reverse ++ bytes) (piecesFrom (some char) bytes) := by
  induction bytes with
  | nil =>
      refine ⟨.nil, fun char reached => ?_⟩
      have starts := reached.startsChar
      have breaks : Breaks char.seen.reverse [] := by
        intro others ends
        obtain rfl := List.head?_eq_none_iff.mp ends
        exact ⟨_, _, _, reached.piecesFrom_eq []⟩
      exact .damaged (breaks.isDamaged reached.seen_ne_nil (.inr starts)) ⟨starts, rfl⟩ .nil
  | cons byte rest induction =>
      obtain ⟨behind, within⟩ := induction
      have fresh : Divides (byte :: rest) (piecesFrom none (byte :: rest)) :=
        divides_start behind within
      refine ⟨fresh, fun char reached => ?_⟩
      by_cases inside : char.low ≤ byte.toNat ∧ byte.toNat ≤ char.high
      · cases more_eq : char.more with
        | zero =>
            rw [piecesFrom_last inside.1 inside.2 rest more_eq, ← List.singleton_append,
              ← List.append_assoc, ← reached.utf8EncodeChar_eq more_eq inside.1 inside.2]
            exact .char _ behind
        | succ more =>
            obtain ⟨seen, value, low, high, _⟩ := char
            obtain rfl : _ = more + 1 := more_eq
            have next := within _ (reached.inner inside.1 inside.2)
            rw [List.reverse_cons, List.append_assoc, List.singleton_append] at next
            rw [piecesFrom_inner inside.1 inside.2 rest rfl]
            exact next
      · have starts := reached.startsChar
        have breaks : Breaks char.seen.reverse (byte :: rest) := by
          intro others goes_on
          obtain ⟨others, rfl⟩ := List.head?_eq_some_iff.mp goes_on
          exact ⟨_, _, _, (reached.piecesFrom_eq _).trans (piecesFrom_broken inside others)⟩
        rw [piecesFrom_broken inside]
        exact .damaged (breaks.isDamaged reached.seen_ne_nil (.inr starts))
          ⟨starts, List.cons_ne_nil _ _⟩ fresh

/-- The reader of bytes makes the one division that there is. -/
theorem divides_iff {bytes : List UInt8} {division : List Piece} :
    Divides bytes division ↔ pieces bytes = division := by
  have divided := (divides_piecesFrom bytes).1
  refine ⟨divided.eq, ?_⟩
  rintro rfl
  exact divided

/-! ## Bytes of a text -/

theorem decodeLossy_encode (text : Text) : decodeLossy (encode text) = text := by
  rw [decodeLossy, pieces_encode, List.map_map]
  exact List.map_id text

/-! ## Shown texts -/

/-- Bytes are shown as a text: their characters, and one replacement character for each damaged
run. -/
def Shows (bytes : List UInt8) (text : Text) : Prop :=
  ∃ division, Divides bytes division ∧ division.map Piece.shown = text

theorem shows_iff {bytes : List UInt8} {text : Text} :
    Shows bytes text ↔ decodeLossy bytes = text := by
  simp only [Shows, divides_iff, exists_eq_left', decodeLossy]

/-! ## Line feeds -/

/-- The byte of a line feed stands in no other character. -/
theorem eq_feed_of_mem {c : Char} (member : 0x0A ∈ String.utf8EncodeChar c) : c = '\n' := by
  have number_eq {n : Nat} (small : n < 256) (same : 0x0A = UInt8.ofNat n) : n = 0x0A := by
    rw [← UInt8.toNat_ofNat_of_lt' small, ← same]
    rfl
  have valid := c.valid
  simp only [UInt32.isValidChar, Nat.isValidChar] at valid
  rw [String.utf8EncodeChar] at member
  split at member
  next one =>
    have feed := number_eq (by omega) (List.mem_singleton.mp member)
    exact Char.ext (UInt32.toNat_inj.mp feed)
  -- All bytes of a character with several of them are large.
  split at member
  · simp only [List.mem_cons, List.not_mem_nil, or_false] at member
    rcases member with same | same <;> have feed := number_eq (by omega) same <;> omega
  split at member
  · simp only [List.mem_cons, List.not_mem_nil, or_false] at member
    rcases member with same | same | same <;> have feed := number_eq (by omega) same <;> omega
  · simp only [List.mem_cons, List.not_mem_nil, or_false] at member
    rcases member with same | same | same | same <;>
      have feed := number_eq (by omega) same <;> omega

private theorem mem_of_feed_mem {bytes : List UInt8} {division : List Piece}
    (divided : Divides bytes division) (member : '\n' ∈ division.map Piece.shown) :
    0x0A ∈ bytes := by
  induction divided with
  | nil => simp at member
  | @char rest pieces c behind induction =>
      rw [List.map_cons, List.mem_cons] at member
      rcases member with same | later
      · obtain rfl : '\n' = c := same
        exact List.mem_append_left rest (List.mem_singleton_self _)
      · exact List.mem_append_right _ (induction later)
  | damaged here fits behind induction =>
      rw [List.map_cons, List.mem_cons] at member
      rcases member with same | later
      · cases same
      · exact List.mem_append_right _ (induction later)

/-- A line feed behind a damaged run, or behind what follows it, leaves the run as it is. -/
theorem IsDamaged.append_feed {run rest : List UInt8} (here : IsDamaged run rest)
    (behind : List UInt8) : IsDamaged run (rest ++ 0x0A :: behind) := by
  refine ⟨here.some_byte, fun c front => ?_, here.starts, fun longer there starts => ?_⟩
  · rw [← List.append_assoc] at front
    by_cases member : 0x0A ∈ String.utf8EncodeChar c
    · obtain rfl := eq_feed_of_mem member
      obtain ⟨first, others, rfl⟩ := List.exists_cons_of_ne_nil here.some_byte
      obtain ⟨rfl, -⟩ := List.cons_prefix_cons.mp front
      exact here.no_char '\n' (List.cons_prefix_cons.mpr ⟨rfl, List.nil_prefix⟩)
    · exact here.no_char c (Text.prefix_of_prefix_append_cons member front)
  · rw [← List.append_assoc] at there
    by_cases member : 0x0A ∈ longer
    · obtain ⟨c, inside⟩ := starts
      obtain rfl := eq_feed_of_mem (inside.subset member)
      exact inside.length_le.trans (List.length_pos_iff.mpr here.some_byte)
    · exact here.longest longer (Text.prefix_of_prefix_append_cons member there) starts

/-- Behind a line feed the division starts anew, and in front of it nothing else is shown. -/
theorem exists_divides_append_feed {before behind : List UInt8} {division others : List Piece}
    (divided : Divides before division) (later : Divides behind others) :
    ∃ joined, Divides (before ++ 0x0A :: behind) joined ∧
      joined.map Piece.shown = division.map Piece.shown ++ '\n' :: others.map Piece.shown := by
  induction divided with
  | nil => exact ⟨_, .char '\n' later, rfl⟩
  | char c _ induction =>
      obtain ⟨joined, divided, shown_eq⟩ := induction
      refine ⟨.char c :: joined, ?_, by rw [List.map_cons, shown_eq]; rfl⟩
      rw [List.append_assoc]
      exact .char c divided
  | @damaged run rest damage pieces here fits _ induction =>
      obtain ⟨joined, divided, shown_eq⟩ := induction
      -- A run at the end of the bytes is now one that a byte does not continue.
      obtain ⟨kind, others_fit⟩ : ∃ kind : Damage, kind.Fits run (rest ++ 0x0A :: behind) := by
        cases damage with
        | start => exact ⟨.start, fits⟩
        | continuation | ending => exact ⟨.continuation, fits.1, by simp⟩
      refine ⟨.damaged run kind :: joined, ?_, by rw [List.map_cons, shown_eq]; rfl⟩
      rw [List.append_assoc]
      exact .damaged (here.append_feed behind) others_fit divided

private theorem decodeLossy_append_feed (before behind : List UInt8) :
    decodeLossy (before ++ 0x0A :: behind) =
      decodeLossy before ++ '\n' :: decodeLossy behind := by
  obtain ⟨joined, divided, shown_eq⟩ :=
    exists_divides_append_feed (divides_piecesFrom before).1 (divides_piecesFrom behind).1
  exact (shows_iff.mp ⟨joined, divided, rfl⟩).trans shown_eq

/-- The lines of the text that bytes are shown as are the texts that the bytes between line feeds
are shown as. -/
theorem lines_decodeLossy (bytes : List UInt8) :
    (decodeLossy bytes).lines = (bytes.splitOn 0x0A).map decodeLossy := by
  by_cases member : 0x0A ∈ bytes
  · obtain ⟨before, behind, rfl⟩ := List.append_of_mem member
    have shorter : before.length < (before ++ 0x0A :: behind).length := by simp
    have other_shorter : behind.length < (before ++ 0x0A :: behind).length := by simp; omega
    rw [decodeLossy_append_feed, Text.lines_append_cons, List.splitOn_append_cons_self,
      List.map_append, lines_decodeLossy before, lines_decodeLossy behind]
  · have unbroken : '\n' ∉ decodeLossy bytes :=
      fun feed => member (mem_of_feed_mem (divides_piecesFrom bytes).1 feed)
    rw [Text.lines, Text.cut_eq_splitOn, List.splitOn_eq_singleton unbroken,
      List.splitOn_eq_singleton member, List.map_singleton]
termination_by bytes.length

end Utf8
end DiscoveryFiles
