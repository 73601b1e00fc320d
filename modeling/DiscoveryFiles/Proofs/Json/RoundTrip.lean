import DiscoveryFiles.Proofs.Json.Escape
import DiscoveryFiles.Proofs.Json.Integer

/-!
# Written values

A value that is built from truth values, integers, strings, arrays and objects is read back from
what is written for it, on one line or with one item to a line.
-/

namespace DiscoveryFiles
namespace Json

/-- A value without floating-point numbers that has a notation, with its containers nested no more
than `depth` deep. -/
inductive Notated : Nat → Json → Prop where
  /-- The value `null`. -/
  | null {depth : Nat} : Notated depth .null
  /-- A truth value. -/
  | boolean {depth : Nat} (b : Bool) : Notated depth (.boolean b)
  /-- An integer that is not too long. -/
  | integer {depth : Nat} {n : Int} (few : HasFewDigits n) : Notated depth (.integer n)
  /-- A string without halves of surrogate pairs. -/
  | string {depth : Nat} (text : Text) : Notated depth (.string (CodePoints.ofText text))
  /-- An array. -/
  | array {depth : Nat} {items : List Json} (inner : ∀ item ∈ items, Notated depth item) :
      Notated (depth + 1) (.array items)
  /-- An object with distinct names. -/
  | object {depth : Nat} {members : List (CodePoints × Json)}
      (distinct : (members.map Prod.fst).Nodup)
      (named : ∀ member ∈ members, ∃ text, member.1 = CodePoints.ofText text)
      (inner : ∀ member ∈ members, Notated depth member.2) :
      Notated (depth + 1) (.object members)

/-- Whether a character can be the first of a written value. -/
def Opens (c : Char) : Prop :=
  Parser.isBlank c = false ∧ c ≠ ']' ∧ c ≠ '}' ∧ c ≠ '\uFEFF'

instance (c : Char) : Decidable (Opens c) :=
  inferInstanceAs (Decidable (_ ∧ _ ∧ _ ∧ _))

theorem opens_of_isDigit {c : Char} (digit : Parser.isDigit c = true) : Opens c := by
  rw [Parser.isDigit_iff] at digit
  refine ⟨?_, ?_, ?_, ?_⟩
  · simp only [Parser.isBlank, Bool.or_eq_false_iff, decide_eq_false_iff_not]
    refine ⟨⟨⟨?_, ?_⟩, ?_⟩, ?_⟩ <;> rintro rfl <;> simp at digit
  all_goals
    rintro rfl
    simp at digit

private theorem writeInteger_eq_cons (n : Int) :
    ∃ first rest, writeInteger n = first :: rest ∧ (Parser.isDigit first = true ∨ first = '-') := by
  cases n with
  | ofNat n =>
      obtain ⟨first, rest, written, digit⟩ := Parser.toDigits_eq_cons n
      exact ⟨first, rest, written, .inl digit⟩
  | negSucc n => exact ⟨'-', _, rfl, .inr rfl⟩

section Layout

variable (spread : Spread) (level : Nat)

private theorem write_array_append (first : Json) (others : List Json) (rest : Text) :
    write spread level (.array (first :: others)) ++ rest =
      '[' :: (spread.gap (level + 1) ++ (write spread (level + 1) first ++
        (writeItems spread (level + 1) others ++ (spread.gap level ++ ']' :: rest)))) := by
  simp [write]

private theorem write_object_append (name : CodePoints) (first : Json)
    (others : List (CodePoints × Json)) (rest : Text) :
    write spread level (.object ((name, first) :: others)) ++ rest =
      '{' :: (spread.gap (level + 1) ++ (writeString name ++ ':' :: ' ' ::
        (write spread (level + 1) first ++
          (writeMembers spread (level + 1) others ++ (spread.gap level ++ '}' :: rest))))) := by
  simp [write]

private theorem writeItems_cons_append (item : Json) (items : List Json) (rest : Text) :
    writeItems spread level (item :: items) ++ rest =
      spread.separator level ++ (write spread level item ++
        (writeItems spread level items ++ rest)) := by
  simp [writeItems]

private theorem writeMembers_cons_append (name : CodePoints) (value : Json)
    (members : List (CodePoints × Json)) (rest : Text) :
    writeMembers spread level ((name, value) :: members) ++ rest =
      spread.separator level ++ (writeString name ++ ':' :: ' ' :: (write spread level value ++
        (writeMembers spread level members ++ rest))) := by
  simp [writeMembers]

private theorem Notated.write_eq_cons {depth : Nat} {value : Json} (notated : Notated depth value) :
    ∃ first rest, write spread level value = first :: rest ∧ Opens first := by
  cases notated with
  | null => exact ⟨'n', _, rfl, by decide⟩
  | boolean b => cases b <;> exact ⟨_, _, rfl, by decide⟩
  | @integer _ n few =>
      obtain ⟨first, rest, written, digit | rfl⟩ := writeInteger_eq_cons n
      · exact ⟨first, rest, written, opens_of_isDigit digit⟩
      · exact ⟨'-', rest, written, by decide⟩
  | string text => exact ⟨'"', _, rfl, by decide⟩
  | @array _ items inner =>
      cases items with
      | nil => exact ⟨'[', _, rfl, by decide⟩
      | cons first others =>
          exact ⟨'[', _, by simpa using write_array_append spread level first others [], by decide⟩
  | @object _ members distinct named inner =>
      cases members with
      | nil => exact ⟨'{', _, rfl, by decide⟩
      | cons first others =>
          exact ⟨'{', _, by simpa using write_object_append spread level first.1 first.2 others [],
            by decide⟩

private theorem isBlank_of_mem_gap {c : Char} (member : c ∈ spread.gap level) :
    Parser.isBlank c = true := by
  cases spread with
  | line => cases member
  | indented =>
      obtain rfl | member := List.mem_cons.mp member
      · decide
      · rw [List.eq_of_mem_replicate member]
        decide

private theorem separator_eq_cons :
    ∃ blanks, spread.separator level = ',' :: blanks ∧ ∀ c ∈ blanks, Parser.isBlank c = true := by
  cases spread with
  | line => exact ⟨[' '], rfl, List.forall_mem_singleton.mpr rfl⟩
  | indented => exact ⟨_, rfl, fun c => isBlank_of_mem_gap .indented level⟩

private theorem length_separator_pos : 0 < (spread.separator level).length := by
  obtain ⟨blanks, shape, -⟩ := separator_eq_cons spread level
  simp [shape]

end Layout

namespace Parser

theorem skipBlank_append {blanks : Text} (blank : ∀ c ∈ blanks, isBlank c = true) (text : Text) :
    skipBlank (blanks ++ text) = skipBlank text :=
  List.dropWhile_append_of_pos blank

theorem skipBlank_cons {c : Char} (shown : isBlank c = false) (rest : Text) :
    skipBlank (c :: rest) = c :: rest :=
  List.dropWhile_cons_of_neg (by simp [shown])

theorem endsNumeral_nil : EndsNumeral [] := by
  simp [EndsNumeral]

theorem endsNumeral_cons {c : Char}
    (other : isDigit c = false ∧ c ≠ '.' ∧ c ≠ 'e' ∧ c ≠ 'E') (rest : Text) :
    EndsNumeral (c :: rest) := by
  simpa [EndsNumeral] using other

private theorem endsNumeral_of_isBlank {c : Char} (blank : isBlank c = true) (rest : Text) :
    EndsNumeral (c :: rest) := by
  refine endsNumeral_cons ?_ rest
  simp only [isBlank, Bool.or_eq_true, decide_eq_true_eq] at blank
  obtain ((rfl | rfl) | rfl) | rfl := blank <;> decide

theorem endsNumeral_append {blanks text : Text} (blank : ∀ c ∈ blanks, isBlank c = true)
    (ends : EndsNumeral text) : EndsNumeral (blanks ++ text) := by
  cases blanks with
  | nil => exact ends
  | cons c blanks => exact endsNumeral_of_isBlank (blank c List.mem_cons_self) _

/-- Within a container, the text goes on after a value with a comma or a closing bracket. -/
theorem endsNumeral_gap_append (spread : Spread) (level : Nat) {close : Char}
    (closes : close = ']' ∨ close = '}') (rest : Text) :
    EndsNumeral (spread.gap level ++ close :: rest) := by
  refine endsNumeral_append (fun c => isBlank_of_mem_gap spread level) ?_
  obtain rfl | rfl := closes <;> exact endsNumeral_cons (by decide) rest

private theorem endsNumeral_separator_append (spread : Spread) (level : Nat) (rest : Text) :
    EndsNumeral (spread.separator level ++ rest) := by
  obtain ⟨blanks, shape, -⟩ := separator_eq_cons spread level
  rw [shape]
  exact endsNumeral_cons (by decide) _

private theorem skipBlank_gap_append (spread : Spread) (level : Nat) {c : Char}
    (shown : isBlank c = false) (rest : Text) :
    skipBlank (spread.gap level ++ c :: rest) = c :: rest := by
  rw [skipBlank_append (fun c => isBlank_of_mem_gap spread level), skipBlank_cons shown]

private theorem skipBlank_separator_append (spread : Spread) (level : Nat) (text : Text) :
    ∃ behind, skipBlank (spread.separator level ++ text) = ',' :: behind ∧
      skipBlank behind = skipBlank text := by
  obtain ⟨blanks, shape, blank⟩ := separator_eq_cons spread level
  refine ⟨blanks ++ text, ?_, skipBlank_append blank text⟩
  rw [shape, List.cons_append, skipBlank_cons (by decide)]

private theorem memberName_writeString_append (name rest : Text) :
    memberName (writeString (CodePoints.ofText name) ++ ':' :: ' ' :: rest) =
      .ok (CodePoints.ofText name, skipBlank rest) := by
  have colon : skipBlank (':' :: ' ' :: rest) = ':' :: ' ' :: rest := skipBlank_cons (by decide) _
  have behind : skipBlank (' ' :: rest) = skipBlank rest :=
    skipBlank_append (List.forall_mem_singleton.mpr rfl : ∀ c ∈ [' '], isBlank c = true) rest
  rw [writeString_append, memberName, string_flatMap_writePoint]
  simp only [colon, behind]

/-- Whether a value that is written at a level can stand in a container, and is read back in front
of whatever ends a numeral. -/
structure ReadBack (spread : Spread) (level depth : Nat) (value : Json) : Prop where
  /-- Its first character belongs to it alone. -/
  opens : ∃ first rest, write spread level value = first :: rest ∧ Opens first
  /-- It is read back. -/
  read : ∀ fuel rest, 2 * (write spread level value).length < fuel → EndsNumeral rest →
    Parser.value fuel depth (write spread level value ++ rest) = .ok (value, rest)

section Container

variable {spread : Spread} {level depth : Nat}

theorem ReadBack.skipBlank_append {value : Json} (readBack : ReadBack spread level depth value)
    (rest : Text) :
    skipBlank (write spread level value ++ rest) = write spread level value ++ rest := by
  obtain ⟨first, text, shape, opens⟩ := readBack.opens
  rw [shape, List.cons_append, skipBlank_cons opens.1]

/-- The items of an array are read back, up to the closing bracket. -/
theorem items_write_append (fuel : Nat) (first : Json) (others : List Json)
    (readBack : ∀ item ∈ first :: others, ReadBack spread (level + 1) depth item)
    (enough : 2 * (write spread (level + 1) first ++
      writeItems spread (level + 1) others).length + 1 < fuel) (rest : Text) :
    items fuel depth (write spread (level + 1) first ++
        (writeItems spread (level + 1) others ++ (spread.gap level ++ ']' :: rest))) =
      .ok (first :: others, rest) := by
  induction others generalizing first fuel with
  | nil =>
      obtain ⟨fuel, rfl⟩ := Nat.exists_eq_add_one_of_ne_zero (Nat.ne_zero_of_lt enough)
      simp only [writeItems, List.append_nil] at enough
      have read := (readBack first List.mem_cons_self).read fuel (spread.gap level ++ ']' :: rest)
        (by omega) (endsNumeral_gap_append spread level (.inl rfl) rest)
      rw [writeItems, List.nil_append, items, read]
      simp only [skipBlank_gap_append spread level (c := ']') (by decide)]
  | cons second others induction =>
      obtain ⟨fuel, rfl⟩ := Nat.exists_eq_add_one_of_ne_zero (Nat.ne_zero_of_lt enough)
      -- The step to the next item costs fuel, which the separator in front of it pays for.
      have separated := length_separator_pos spread (level + 1)
      simp only [writeItems, List.length_append] at enough
      have further := induction fuel second
        (fun item member => readBack item (List.mem_cons_of_mem first member))
        (by rw [List.length_append]; omega)
      obtain ⟨behind, comma, value⟩ := skipBlank_separator_append spread (level + 1)
        (write spread (level + 1) second ++
          (writeItems spread (level + 1) others ++ (spread.gap level ++ ']' :: rest)))
      rw [(readBack second (by simp)).skipBlank_append] at value
      rw [writeItems_cons_append, items, (readBack first List.mem_cons_self).read fuel _ (by omega)
        (endsNumeral_separator_append spread (level + 1) _)]
      simp only [comma, value, further]

/-- The members of an object are read back, up to the closing brace. -/
theorem members_write_append (fuel : Nat) (name : Text) (first : Json)
    (others : List (CodePoints × Json))
    (named : ∀ member ∈ others, ∃ text, member.1 = CodePoints.ofText text)
    (readBack : ∀ value ∈ first :: others.map Prod.snd, ReadBack spread (level + 1) depth value)
    (enough : 2 * (write spread (level + 1) first ++
      writeMembers spread (level + 1) others).length + 1 < fuel) (rest : Text) :
    members fuel depth (writeString (CodePoints.ofText name) ++ ':' :: ' ' ::
        (write spread (level + 1) first ++
          (writeMembers spread (level + 1) others ++ (spread.gap level ++ '}' :: rest)))) =
      .ok ((CodePoints.ofText name, first) :: others, rest) := by
  induction others generalizing name first fuel with
  | nil =>
      obtain ⟨fuel, rfl⟩ := Nat.exists_eq_add_one_of_ne_zero (Nat.ne_zero_of_lt enough)
      have valueBack := readBack first List.mem_cons_self
      simp only [writeMembers, List.append_nil] at enough
      have read := valueBack.read fuel (spread.gap level ++ '}' :: rest) (by omega)
        (endsNumeral_gap_append spread level (.inr rfl) rest)
      rw [writeMembers, List.nil_append, members, memberName_writeString_append,
        valueBack.skipBlank_append]
      simp only [read, skipBlank_gap_append spread level (c := '}') (by decide)]
  | cons second others induction =>
      obtain ⟨fuel, rfl⟩ := Nat.exists_eq_add_one_of_ne_zero (Nat.ne_zero_of_lt enough)
      obtain ⟨⟨key, same⟩, othersNamed⟩ := List.forall_mem_cons.mp named
      obtain ⟨_, second⟩ := second
      subst same
      have valueBack := readBack first List.mem_cons_self
      have separated := length_separator_pos spread (level + 1)
      simp only [writeMembers, List.length_append, List.length_cons] at enough
      have further := induction fuel key second othersNamed
        (fun value member => readBack value (List.mem_cons_of_mem first member))
        (by rw [List.length_append]; omega)
      obtain ⟨behind, comma, entry⟩ := skipBlank_separator_append spread (level + 1)
        (writeString (CodePoints.ofText key) ++ ':' :: ' ' :: (write spread (level + 1) second ++
          (writeMembers spread (level + 1) others ++ (spread.gap level ++ '}' :: rest))))
      rw [writeString_append, skipBlank_cons (by decide), ← writeString_append] at entry
      have read := fun rest => valueBack.read fuel (spread.separator (level + 1) ++ rest)
        (by omega) (endsNumeral_separator_append spread (level + 1) rest)
      rw [writeMembers_cons_append, members, memberName_writeString_append,
        valueBack.skipBlank_append]
      simp only [read, comma, entry, further]

end Container

private theorem put_of_notMem {name : CodePoints} (value : Json)
    {members : List (CodePoints × Json)}
    (fresh : name ∉ members.map Prod.fst) :
    put name value members = members ++ [(name, value)] := by
  induction members with
  | nil => rfl
  | cons member members induction =>
      obtain ⟨differ, fresh⟩ := List.ne_and_not_mem_of_not_mem_cons fresh
      rw [put, if_neg differ.symm, induction fresh, List.cons_append]

private theorem collect_of_nodup {entries : List (CodePoints × Json)}
    (distinct : (entries.map Prod.fst).Nodup) : collect entries = entries := by
  have kept : ∀ members, ((members ++ entries).map Prod.fst).Nodup →
      entries.foldl (fun members entry => put entry.1 entry.2 members) members =
        members ++ entries := by
    clear distinct
    induction entries with
    | nil => simp
    | cons entry entries induction =>
        intro members distinct
        have fresh : entry.1 ∉ members.map Prod.fst := by
          rw [List.map_append, List.nodup_append] at distinct
          exact fun member => distinct.2.2 _ member _ List.mem_cons_self rfl
        rw [List.foldl_cons, put_of_notMem _ fresh, induction _ (by simpa using distinct)]
        simp
  exact kept [] distinct

theorem value_of_atom {c : Char} (other : c ≠ '"' ∧ c ≠ '[' ∧ c ≠ '{') (fuel depth : Nat)
    (rest : Text) : value (fuel + 1) depth (c :: rest) = atom (c :: rest) := by
  rw [value]
  · rintro _ ⟨⟩
    exact other.1 rfl
  · rintro _ ⟨⟩
    exact other.2.1 rfl
  · rintro _ ⟨⟩
    exact other.2.2 rfl

private theorem value_array_append {spread : Spread} {level depth fuel : Nat} {items : List Json}
    (readBack : ∀ item ∈ items, ReadBack spread (level + 1) depth item)
    (enough : 2 * (write spread level (.array items)).length < fuel) (rest : Text) :
    value fuel (depth + 1) (write spread level (.array items) ++ rest) =
      .ok (.array items, rest) := by
  obtain ⟨fuel, rfl⟩ := Nat.exists_eq_add_one_of_ne_zero (Nat.ne_zero_of_lt enough)
  cases items with
  | nil =>
      have closed : skipBlank (']' :: rest) = ']' :: rest := skipBlank_cons (by decide) rest
      simp only [write, List.cons_append, List.nil_append, value, closed]
  | cons first others =>
      obtain ⟨c, text, shape, opens⟩ := (readBack first List.mem_cons_self).opens
      have inner := write_array_append spread level first others []
      simp only [List.append_nil] at inner
      simp only [inner, List.length_cons, List.length_append] at enough
      have read := items_write_append fuel first others readBack
        (by rw [List.length_append]; omega) rest
      rw [shape, List.cons_append] at read
      rw [write_array_append, shape, List.cons_append, value,
        skipBlank_gap_append spread (level + 1) opens.1]
      split
      next closed => exact absurd (List.cons.inj closed).1 opens.2.1
      next => rw [read]

private theorem value_object_append {spread : Spread} {level depth fuel : Nat}
    {members : List (CodePoints × Json)} (distinct : (members.map Prod.fst).Nodup)
    (named : ∀ member ∈ members, ∃ text, member.1 = CodePoints.ofText text)
    (readBack : ∀ value ∈ members.map Prod.snd, ReadBack spread (level + 1) depth value)
    (enough : 2 * (write spread level (.object members)).length < fuel) (rest : Text) :
    value fuel (depth + 1) (write spread level (.object members) ++ rest) =
      .ok (.object members, rest) := by
  obtain ⟨fuel, rfl⟩ := Nat.exists_eq_add_one_of_ne_zero (Nat.ne_zero_of_lt enough)
  cases members with
  | nil =>
      have closed : skipBlank ('}' :: rest) = '}' :: rest := skipBlank_cons (by decide) rest
      simp only [write, List.cons_append, List.nil_append, value, closed]
  | cons first others =>
      obtain ⟨⟨name, same⟩, othersNamed⟩ := List.forall_mem_cons.mp named
      obtain ⟨_, first⟩ := first
      subst same
      have inner := write_object_append spread level (CodePoints.ofText name) first others []
      simp only [List.append_nil] at inner
      simp only [inner, List.length_cons, List.length_append] at enough
      have read := members_write_append fuel name first others othersNamed readBack
        (by rw [List.length_append]; omega) rest
      rw [writeString_append] at read
      rw [write_object_append, writeString_append, value,
        skipBlank_gap_append spread (level + 1) (c := '"') (by decide)]
      split
      next closed => exact absurd (List.cons.inj closed).1 (by decide)
      next => simp only [read, collect_of_nodup distinct]

end Parser

/-- What is written for a value is read back, whatever follows it that does not go on with a
numeral. -/
theorem Notated.readBack {depth limit : Nat} {value : Json} (notated : Notated depth value)
    (spread : Spread) (level : Nat) (within : depth ≤ limit) :
    Parser.ReadBack spread level limit value := by
  refine ⟨notated.write_eq_cons spread level, fun fuel rest enough ends => ?_⟩
  -- The values within a container are written one level deeper and may nest one level less.
  induction notated generalizing level limit fuel rest with
  | null =>
      obtain ⟨fuel, rfl⟩ := Nat.exists_eq_add_one_of_ne_zero (Nat.ne_zero_of_lt enough)
      exact Parser.value_of_atom (by decide) fuel limit _
  | boolean b =>
      obtain ⟨fuel, rfl⟩ := Nat.exists_eq_add_one_of_ne_zero (Nat.ne_zero_of_lt enough)
      cases b <;> exact Parser.value_of_atom (by decide) fuel limit _
  | @integer _ n few =>
      obtain ⟨fuel, rfl⟩ := Nat.exists_eq_add_one_of_ne_zero (Nat.ne_zero_of_lt enough)
      have read := Parser.atom_writeInteger_append ends few
      rw [write]
      obtain ⟨first, text, shape, digit | rfl⟩ := writeInteger_eq_cons n
      · rw [shape, List.cons_append] at read ⊢
        rw [Parser.value_of_isDigit digit, read]
      · rw [shape, List.cons_append] at read ⊢
        rw [Parser.value_of_atom (by decide), read]
  | string text =>
      obtain ⟨fuel, rfl⟩ := Nat.exists_eq_add_one_of_ne_zero (Nat.ne_zero_of_lt enough)
      rw [write, Parser.writeString_append, Parser.value, Parser.string_flatMap_writePoint]
  | @array depth items inner induction =>
      obtain ⟨limit, rfl⟩ := Nat.exists_eq_add_one_of_ne_zero (Nat.ne_zero_of_lt within)
      refine Parser.value_array_append (fun item member => ⟨?_, ?_⟩) enough rest
      · exact (inner item member).write_eq_cons spread (level + 1)
      · exact fun fuel rest => induction item member (level + 1) (by omega) fuel rest
  | @object depth members distinct named inner induction =>
      obtain ⟨limit, rfl⟩ := Nat.exists_eq_add_one_of_ne_zero (Nat.ne_zero_of_lt within)
      refine Parser.value_object_append distinct named (fun value member => ?_) enough rest
      obtain ⟨entry, listed, rfl⟩ := List.mem_map.mp member
      exact ⟨(inner entry listed).write_eq_cons spread (level + 1),
        fun fuel rest => induction entry listed (level + 1) (by omega) fuel rest⟩

/-- A written value is read back, also with white space behind it. -/
theorem Notated.parse_write {depth : Nat} {value : Json} (notated : Notated depth value)
    (within : depth ≤ depthLimit) (spread : Spread) {blanks : Text}
    (blank : ∀ c ∈ blanks, Parser.isBlank c = true) :
    parse (write spread 0 value ++ blanks) = .ok value := by
  have readBack := notated.readBack spread 0 within
  obtain ⟨first, text, shape, opens⟩ := readBack.opens
  have unmarked : Text.begins (write spread 0 value ++ blanks) "\uFEFF" = false := by
    simp [shape, Text.begins, List.isPrefixOf, opens.2.2.2.symm]
  have ends : Parser.EndsNumeral blanks := by
    simpa using Parser.endsNumeral_append blank Parser.endsNumeral_nil
  have left : Parser.skipBlank blanks = [] := List.dropWhile_eq_nil_iff.mpr blank
  have read := readBack.read (2 * (write spread 0 value ++ blanks).length + 2) blanks
    (by rw [List.length_append]; omega) ends
  simp only [parse, Parser.document, unmarked, readBack.skipBlank_append, read, left,
    Bool.false_eq_true, if_false, Except.mapError]

end Json
end DiscoveryFiles
