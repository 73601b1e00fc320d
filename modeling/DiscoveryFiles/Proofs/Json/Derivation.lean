import DiscoveryFiles.Proofs.Json.Gathering
import DiscoveryFiles.Proofs.Json.Number
import DiscoveryFiles.Proofs.Json.RoundTrip
import DiscoveryFiles.Proofs.Json.StringText

/-!
# Reading and the grammar

The reader of whole texts accepts only what the grammar derives, with the value that the derivation
denotes.  Conversely it refuses a text of the grammar only where one of its limits is passed: the
depth of containers, or the digits of an integer.
-/

namespace DiscoveryFiles
namespace Json

/-! ## White space -/

private theorem blanks_iff {text : Text} : Blanks text ↔ ∀ c ∈ text, Parser.isBlank c = true := by
  simp [Blanks, Parser.isBlank, or_assoc]

theorem blanks_nil : Blanks [] := by
  simp [Blanks]

theorem Blanks.append {front back : Text} (before : Blanks front) (behind : Blanks back) :
    Blanks (front ++ back) :=
  fun c member => (List.mem_append.mp member).elim (before c) (behind c)

theorem Blanks.skipBlank_append {blanks : Text} (blank : Blanks blanks) {c : Char}
    (shown : Parser.isBlank c = false) (rest : Text) :
    Parser.skipBlank (blanks ++ c :: rest) = c :: rest := by
  rw [Parser.skipBlank_append (blanks_iff.mp blank), Parser.skipBlank_cons shown]

private theorem Blanks.endsNumeral {blanks : Text} (blank : Blanks blanks) {c : Char}
    (other : Parser.isDigit c = false ∧ c ≠ '.' ∧ c ≠ 'e' ∧ c ≠ 'E') (rest : Text) :
    Parser.EndsNumeral (blanks ++ c :: rest) :=
  Parser.endsNumeral_append (blanks_iff.mp blank) (Parser.endsNumeral_cons other rest)

theorem exists_blanks (text : Text) :
    ∃ blanks, Blanks blanks ∧ text = blanks ++ Parser.skipBlank text :=
  ⟨text.takeWhile Parser.isBlank, blanks_iff.mpr fun _ => List.mem_takeWhile_imp,
    List.takeWhile_append_dropWhile.symm⟩

private theorem ElementText.blanks_append {front text : Text} {value : Json} (blank : Blanks front)
    (element : ElementText text value) : ElementText (front ++ text) value := by
  obtain ⟨before, inside, behind⟩ := element
  rw [← List.append_assoc]
  exact .padded (blank.append before) inside behind

private theorem ItemsText.blanks_append {front text : Text} {items : List Json}
    (blank : Blanks front)
    (written : ItemsText text items) : ItemsText (front ++ text) items := by
  cases written with
  | one last => exact .one (last.blanks_append blank)
  | more first rest =>
      rw [← List.append_assoc]
      exact .more (first.blanks_append blank) rest

private theorem MemberText.blanks_append {front text : Text} {entry : CodePoints × Json}
    (blank : Blanks front) (written : MemberText text entry) :
    MemberText (front ++ text) entry := by
  obtain ⟨before, quoted, behind, inside⟩ := written
  rw [← List.append_assoc]
  exact .named (blank.append before) quoted behind inside

private theorem MembersText.blanks_append {front text : Text} {entries : List (CodePoints × Json)}
    (blank : Blanks front) (written : MembersText text entries) :
    MembersText (front ++ text) entries := by
  cases written with
  | one last => exact .one (last.blanks_append blank)
  | more first rest =>
      rw [← List.append_assoc]
      exact .more (first.blanks_append blank) rest

namespace Parser

/-! ## How values are taken -/

theorem exists_memberName {text rest : Text} {name : CodePoints}
    (taken : memberName text = .ok (name, rest)) :
    ∃ used blanks front, StringText used name ∧ Blanks blanks ∧ Blanks front ∧
      text = used ++ (blanks ++ ':' :: (front ++ rest)) := by
  rw [memberName.eq_def] at taken
  split at taken
  next text =>
    split at taken
    · cases taken
    next points behind string_eq =>
      obtain ⟨used, quoted, used_eq⟩ := exists_stringText string_eq
      split at taken
      next more colon =>
        cases taken
        obtain ⟨blanks, blank, behind_eq⟩ := exists_blanks behind
        obtain ⟨front, before, more_eq⟩ := exists_blanks more
        refine ⟨used, blanks, front, quoted, blank, before, ?_⟩
        rw [used_eq, ← more_eq, ← colon, ← behind_eq]
      · cases taken
  · cases taken

/-- How a value is taken off a text within a depth, in front of the rest, where the readers for what
a container holds have some fuel. -/
inductive TakesValue (fuel : Nat) : Nat → Text → Json → Text → Prop where
  /-- A string. -/
  | string {depth : Nat} {used rest : Text} {points : CodePoints}
      (quoted : StringText used points) : TakesValue fuel depth (used ++ rest) (.string points) rest
  /-- An array without items. -/
  | emptyArray {depth : Nat} {blanks rest : Text} (blank : Blanks blanks) :
      TakesValue fuel (depth + 1) ('[' :: (blanks ++ ']' :: rest)) (.array []) rest
  /-- An array with items. -/
  | array {depth : Nat} {blanks inner rest : Text} {items : List Json} (blank : Blanks blanks)
      (inside : Parser.items fuel depth inner = .ok (items, rest)) :
      TakesValue fuel (depth + 1) ('[' :: (blanks ++ inner)) (.array items) rest
  /-- An object without members. -/
  | emptyObject {depth : Nat} {blanks rest : Text} (blank : Blanks blanks) :
      TakesValue fuel (depth + 1) ('\x7b' :: (blanks ++ '\x7d' :: rest)) (.object []) rest
  /-- An object with members. -/
  | object {depth : Nat} {blanks inner rest : Text} {entries : List (CodePoints × Json)}
      (blank : Blanks blanks) (inside : Parser.members fuel depth inner = .ok (entries, rest)) :
      TakesValue fuel (depth + 1) ('\x7b' :: (blanks ++ inner)) (.object (collect entries)) rest
  /-- A constant or a number. -/
  | atom {depth : Nat} {used rest : Text} {value : Json}
      (written : ConstantText used value ∨ NumberText used value) :
      TakesValue fuel depth (used ++ rest) value rest

/-- How items are taken off a text up to a closing bracket. -/
inductive TakesItems (fuel depth : Nat) : Text → List Json → Text → Prop where
  /-- The last item. -/
  | one {text blanks rest : Text} {item : Json}
      (inside : Parser.value fuel depth text = .ok (item, blanks ++ ']' :: rest))
      (blank : Blanks blanks) : TakesItems fuel depth text [item] rest
  /-- An item in front of others. -/
  | more {text blanks gap behind rest : Text} {item : Json} {others : List Json}
      (inside : Parser.value fuel depth text = .ok (item, blanks ++ ',' :: (gap ++ behind)))
      (blank : Blanks blanks) (spaced : Blanks gap)
      (further : Parser.items fuel depth behind = .ok (others, rest)) :
      TakesItems fuel depth text (item :: others) rest

/-- How members are taken off a text up to a closing brace. -/
inductive TakesMembers (fuel depth : Nat) :
    Text → List (CodePoints × Json) → Text → Prop where
  /-- The last member. -/
  | one {key padding front inner blanks rest : Text} {name : CodePoints} {value : Json}
      (quoted : StringText key name) (padded : Blanks padding) (before : Blanks front)
      (inside : Parser.value fuel depth inner = .ok (value, blanks ++ '\x7d' :: rest))
      (blank : Blanks blanks) :
      TakesMembers fuel depth (key ++ (padding ++ ':' :: (front ++ inner))) [(name, value)] rest
  /-- A member in front of others. -/
  | more {key padding front inner blanks gap behind rest : Text} {name : CodePoints} {value : Json}
      {others : List (CodePoints × Json)} (quoted : StringText key name) (padded : Blanks padding)
      (before : Blanks front)
      (inside : Parser.value fuel depth inner = .ok (value, blanks ++ ',' :: (gap ++ behind)))
      (blank : Blanks blanks) (spaced : Blanks gap)
      (further : Parser.members fuel depth behind = .ok (others, rest)) :
      TakesMembers fuel depth (key ++ (padding ++ ':' :: (front ++ inner)))
        ((name, value) :: others) rest

section Step

variable {fuel depth : Nat} {text rest : Text}

theorem takesValue_of_value {value : Json}
    (taken : Parser.value (fuel + 1) depth text = .ok (value, rest)) :
    TakesValue fuel depth text value rest := by
  rw [Parser.value.eq_def] at taken
  simp only at taken
  split at taken
  next text =>
    split at taken
    next points behind string_eq =>
      cases taken
      obtain ⟨used, quoted, text_eq⟩ := exists_stringText string_eq
      rw [text_eq]
      exact .string quoted
    · cases taken
  next text =>
    split at taken
    · cases taken
    next depth =>
      obtain ⟨blanks, blank, text_eq⟩ := exists_blanks text
      split at taken
      next behind closed =>
        cases taken
        rw [text_eq, closed]
        exact .emptyArray blank
      next =>
        split at taken
        next items behind items_eq =>
          cases taken
          rw [text_eq]
          exact .array blank items_eq
        · cases taken
  next text =>
    split at taken
    · cases taken
    next depth =>
      obtain ⟨blanks, blank, text_eq⟩ := exists_blanks text
      split at taken
      next behind closed =>
        cases taken
        rw [text_eq, closed]
        exact .emptyObject blank
      next =>
        split at taken
        next entries behind members_eq =>
          cases taken
          rw [text_eq]
          exact .object blank members_eq
        · cases taken
  next =>
    obtain ⟨used, written, text_eq⟩ := exists_atomText taken
    rw [text_eq]
    exact .atom written

theorem takesItems_of_items {items : List Json}
    (taken : Parser.items (fuel + 1) depth text = .ok (items, rest)) :
    TakesItems fuel depth text items rest := by
  rw [Parser.items] at taken
  split at taken
  · cases taken
  next item behind value_eq =>
    obtain ⟨blanks, blank, behind_eq⟩ := exists_blanks behind
    rw [behind_eq] at value_eq
    split at taken
    next closed =>
      cases taken
      rw [closed] at value_eq
      exact .one value_eq blank
    next more comma =>
      split at taken
      next others further items_eq =>
        cases taken
        obtain ⟨gap, spaced, more_eq⟩ := exists_blanks more
        rw [comma, more_eq] at value_eq
        exact .more value_eq blank spaced items_eq
      · cases taken
    · cases taken

theorem takesMembers_of_members {entries : List (CodePoints × Json)}
    (taken : Parser.members (fuel + 1) depth text = .ok (entries, rest)) :
    TakesMembers fuel depth text entries rest := by
  rw [Parser.members] at taken
  split at taken
  · cases taken
  next name inner name_eq =>
    obtain ⟨key, padding, front, quoted, padded, before, text_eq⟩ := exists_memberName name_eq
    rw [text_eq]
    split at taken
    · cases taken
    next value behind value_eq =>
      obtain ⟨blanks, blank, behind_eq⟩ := exists_blanks behind
      rw [behind_eq] at value_eq
      split at taken
      next closed =>
        cases taken
        rw [closed] at value_eq
        exact .one quoted padded before value_eq blank
      next more comma =>
        split at taken
        next others further members_eq =>
          cases taken
          obtain ⟨gap, spaced, more_eq⟩ := exists_blanks more
          rw [comma, more_eq] at value_eq
          exact .more quoted padded before value_eq blank spaced members_eq
        · cases taken
      · cases taken

end Step

/-! ## What is read is derivable -/

/-- Whether the readers with some fuel take only what the grammar derives. -/
structure TakesDerivable (fuel : Nat) : Prop where
  /-- What is taken as a value is a value. -/
  value : ∀ {depth text value rest}, Parser.value fuel depth text = .ok (value, rest) →
    ∃ used, ValueText used value ∧ text = used ++ rest
  /-- What is taken up to a closing bracket are items. -/
  items : ∀ {depth text items rest}, Parser.items fuel depth text = .ok (items, rest) →
    ∃ used, ItemsText used items ∧ text = used ++ ']' :: rest
  /-- What is taken up to a closing brace are members. -/
  members : ∀ {depth text entries rest}, Parser.members fuel depth text = .ok (entries, rest) →
    ∃ used, MembersText used entries ∧ text = used ++ '\x7d' :: rest

section Step

variable {fuel : Nat} (below : TakesDerivable fuel) {depth : Nat} {text rest : Text}

include below

private theorem exists_valueText {value : Json} (taken : TakesValue fuel depth text value rest) :
    ∃ used, ValueText used value ∧ text = used ++ rest := by
  cases taken with
  | string quoted => exact ⟨_, .string quoted, rfl⟩
  | emptyArray blank => exact ⟨_, .emptyArray blank, by simp⟩
  | array blank inside =>
      obtain ⟨used, written, rfl⟩ := below.items inside
      exact ⟨_, .array (written.blanks_append blank), by simp⟩
  | emptyObject blank => exact ⟨_, .emptyObject blank, by simp⟩
  | object blank inside =>
      obtain ⟨used, written, rfl⟩ := below.members inside
      exact ⟨_, .object (written.blanks_append blank) (gathers_collect _), by simp⟩
  | atom written =>
      obtain constant | number := written
      · exact ⟨_, .constant constant, rfl⟩
      · exact ⟨_, .number number, rfl⟩

private theorem exists_itemsText {items : List Json}
    (taken : TakesItems fuel depth text items rest) :
    ∃ used, ItemsText used items ∧ text = used ++ ']' :: rest := by
  cases taken with
  | one inside blank =>
      obtain ⟨used, written, rfl⟩ := below.value inside
      exact ⟨_, .one (.padded blanks_nil written blank), by simp⟩
  | more inside blank spaced further =>
      obtain ⟨used, written, rfl⟩ := below.value inside
      obtain ⟨others, following, rfl⟩ := below.items further
      have element := ElementText.padded blanks_nil written blank
      exact ⟨_, .more element (following.blanks_append spaced), by simp⟩

private theorem exists_membersText {entries : List (CodePoints × Json)}
    (taken : TakesMembers fuel depth text entries rest) :
    ∃ used, MembersText used entries ∧ text = used ++ '\x7d' :: rest := by
  cases taken with
  | one quoted padded before inside blank =>
      obtain ⟨used, written, rfl⟩ := below.value inside
      have member := MemberText.named blanks_nil quoted padded (.padded before written blank)
      exact ⟨_, .one member, by simp⟩
  | more quoted padded before inside blank spaced further =>
      obtain ⟨used, written, rfl⟩ := below.value inside
      obtain ⟨others, following, rfl⟩ := below.members further
      have member := MemberText.named blanks_nil quoted padded (.padded before written blank)
      exact ⟨_, .more member (following.blanks_append spaced), by simp⟩

end Step

theorem takesDerivable (fuel : Nat) : TakesDerivable fuel := by
  induction fuel with
  | zero =>
      constructor
      all_goals
        intro depth text result rest taken
        simp [Parser.value, Parser.items, Parser.members] at taken
  | succ fuel below =>
      exact ⟨fun taken => exists_valueText below (takesValue_of_value taken),
        fun taken => exists_itemsText below (takesItems_of_items taken),
        fun taken => exists_membersText below (takesMembers_of_members taken)⟩

/-! ## First characters -/

/-- A constant or a number starts with a character that starts no other value. -/
theorem exists_atom_cons {text : Text} {value : Json}
    (written : ConstantText text value ∨ NumberText text value) :
    ∃ c rest, text = c :: rest ∧ Opens c ∧ c ≠ '"' ∧ c ≠ '[' ∧ c ≠ '\x7b' := by
  have numeral {sign whole : Text} {negative : Bool} (signed : SignText sign negative)
      (digits : WholeText whole) (more : Text) :
      ∃ c rest, sign ++ (whole ++ more) = c :: rest ∧ Opens c ∧ c ≠ '"' ∧ c ≠ '[' ∧ c ≠ '\x7b' := by
    obtain ⟨c, others, rfl, digit⟩ := digits.exists_cons
    cases signed with
    | minus => exact ⟨'-', _, rfl, by decide⟩
    | absent =>
        refine ⟨c, _, rfl, opens_of_isDigit digit, ?_, ?_, ?_⟩
        all_goals
          rintro rfl
          cases digit
  rcases written with constant | number
  · cases constant <;> exact ⟨_, _, rfl, by decide⟩
  · cases number with
    | integer signed digits => simpa using numeral signed digits []
    | double signed digits => exact numeral signed digits _

private theorem exists_value_cons {text : Text} {value : Json} (written : ValueText text value) :
    ∃ c rest, text = c :: rest ∧ Opens c := by
  cases written with
  | constant word =>
      obtain ⟨c, rest, text_eq, opens, -⟩ := exists_atom_cons (.inl word)
      exact ⟨c, rest, text_eq, opens⟩
  | number numeral =>
      obtain ⟨c, rest, text_eq, opens, -⟩ := exists_atom_cons (.inr numeral)
      exact ⟨c, rest, text_eq, opens⟩
  | string quoted =>
      cases quoted
      exact ⟨'"', _, rfl, by decide⟩
  | emptyArray | array => exact ⟨'[', _, rfl, by decide⟩
  | emptyObject | object => exact ⟨'\x7b', _, rfl, by decide⟩

private theorem skipBlank_value_append {blanks text : Text} {value : Json} (blank : Blanks blanks)
    (written : ValueText text value) (rest : Text) :
    skipBlank (blanks ++ (text ++ rest)) = text ++ rest := by
  obtain ⟨c, others, rfl, opens⟩ := exists_value_cons written
  exact blank.skipBlank_append opens.1 _

/-- Behind the opening bracket of a container that is not empty, no bracket closes it at once. -/
theorem exists_element_cons {text : Text} {value : Json} (element : ElementText text value)
    (rest : Text) : ∃ c more, skipBlank (text ++ rest) = c :: more ∧ Opens c := by
  obtain ⟨before, inside, behind⟩ := element
  simp only [List.append_assoc]
  rw [skipBlank_value_append before inside]
  obtain ⟨c, others, rfl, opens⟩ := exists_value_cons inside
  exact ⟨c, _, rfl, opens⟩

private theorem exists_items_cons {text : Text} {items : List Json} (written : ItemsText text items)
    (rest : Text) : ∃ c more, skipBlank (text ++ rest) = c :: more ∧ Opens c := by
  cases written with
  | one last => exact exists_element_cons last rest
  | more first others =>
      rw [List.append_assoc]
      exact exists_element_cons first _

private theorem exists_member_cons {text : Text} {entry : CodePoints × Json}
    (written : MemberText text entry) (rest : Text) :
    ∃ more, skipBlank (text ++ rest) = '"' :: more := by
  obtain ⟨before, ⟨units, joined⟩, behind, inside⟩ := written
  simp only [List.append_assoc, List.cons_append]
  exact ⟨_, before.skipBlank_append (by decide) _⟩

private theorem exists_members_cons {text : Text} {entries : List (CodePoints × Json)}
    (written : MembersText text entries) (rest : Text) :
    ∃ more, skipBlank (text ++ rest) = '"' :: more := by
  cases written with
  | one last => exact exists_member_cons last rest
  | more first others =>
      rw [List.append_assoc]
      exact exists_member_cons first _

/-! ## What is derivable is read -/

/-- Whether the readers with some fuel take what the grammar derives, unless a limit is passed. -/
structure ReadsDerivable (fuel : Nat) : Prop where
  /-- A value is read in front of whatever does not go on with a numeral. -/
  value : ∀ depth {used value rest}, ValueText used value → EndsNumeral rest →
    2 * used.length < fuel →
    Reaches (Parser.value fuel depth (used ++ rest)) (value, rest)
  /-- Items are read up to a closing bracket. -/
  items : ∀ depth {used items} rest, ItemsText used items → 2 * used.length + 1 < fuel →
    Reaches (Parser.items fuel depth (skipBlank (used ++ ']' :: rest))) (items, rest)
  /-- Members are read up to a closing brace. -/
  members : ∀ depth {used entries} rest, MembersText used entries → 2 * used.length + 1 < fuel →
    Reaches (Parser.members fuel depth (skipBlank (used ++ '\x7d' :: rest))) (entries, rest)

/-- What holds of the expected outcome and of a limit that is passed holds of what is reached. -/
@[elab_as_elim]
theorem Reaches.elim {α : Type} {motive : Outcome α → Prop} {outcome : Outcome α}
    {expected : α × Text} (reaches : Reaches outcome expected) (read : motive (.ok expected))
    (limited : ∀ failure : Failure, failure.IsLimit → motive (.error failure)) :
    motive outcome := by
  rcases reaches with rfl | ⟨failure, rfl, limit⟩
  · exact read
  · exact limited failure limit

section Step

variable {fuel : Nat} (below : ReadsDerivable fuel) (depth : Nat) {used : Text}

include below

private theorem reaches_value_succ {value : Json} {rest : Text} (written : ValueText used value)
    (ends : EndsNumeral rest) (enough : 2 * used.length < fuel + 1) :
    Reaches (Parser.value (fuel + 1) depth (used ++ rest)) (value, rest) := by
  cases written with
  | constant word =>
      obtain ⟨c, others, rfl, -, other⟩ := exists_atom_cons (.inl word)
      have read := atom_of_constantText word rest
      rw [List.cons_append] at read ⊢
      rw [value_of_atom other]
      exact .inl read
  | number numeral =>
      obtain ⟨c, others, rfl, -, other⟩ := exists_atom_cons (.inr numeral)
      have read := reaches_atom_of_numberText numeral ends
      rw [List.cons_append] at read ⊢
      rw [value_of_atom other]
      exact read
  | string quoted =>
      obtain ⟨text, shape, read⟩ := string_append quoted rest
      rw [shape, Parser.value, read]
      exact .inl rfl
  | emptyArray blank =>
      simp only [List.cons_append, List.append_assoc, List.nil_append]
      cases depth with
      | zero => exact .inr ⟨.tooDeep .array, rfl, trivial⟩
      | succ depth =>
          rw [Parser.value, blank.skipBlank_append (by decide)]
          exact .inl rfl
  | array inside =>
      simp only [List.cons_append, List.append_assoc, List.nil_append]
      cases depth with
      | zero => exact .inr ⟨.tooDeep .array, rfl, trivial⟩
      | succ depth =>
          simp only [List.length_cons, List.length_append] at enough
          have read := below.items depth rest inside (by omega)
          obtain ⟨c, more, shape, opens⟩ := exists_items_cons inside (']' :: rest)
          rw [shape] at read
          rw [Parser.value, shape]
          split
          next closed => exact absurd (List.cons.inj closed).1 opens.2.1
          next => exact read.elim (.inl rfl) fun failure limit => .inr ⟨failure, rfl, limit⟩
  | emptyObject blank =>
      simp only [List.cons_append, List.append_assoc, List.nil_append]
      cases depth with
      | zero => exact .inr ⟨.tooDeep .object, rfl, trivial⟩
      | succ depth =>
          rw [Parser.value, blank.skipBlank_append (by decide)]
          exact .inl rfl
  | object inside gathers =>
      obtain rfl := gathers_iff.mp gathers
      simp only [List.cons_append, List.append_assoc, List.nil_append]
      cases depth with
      | zero => exact .inr ⟨.tooDeep .object, rfl, trivial⟩
      | succ depth =>
          simp only [List.length_cons, List.length_append] at enough
          have read := below.members depth rest inside (by omega)
          obtain ⟨more, shape⟩ := exists_members_cons inside ('\x7d' :: rest)
          rw [shape] at read
          rw [Parser.value, shape]
          split
          next closed => exact absurd (List.cons.inj closed).1 (by decide)
          next => exact read.elim (.inl rfl) fun failure limit => .inr ⟨failure, rfl, limit⟩

/-- An item is read, and the text goes on behind the white space that follows it. -/
theorem reaches_element {value : Json} {c : Char} (element : ElementText used value)
    (shown : isBlank c = false) (other : isDigit c = false ∧ c ≠ '.' ∧ c ≠ 'e' ∧ c ≠ 'E')
    (rest : Text) (enough : 2 * used.length < fuel) :
    ∃ behind, skipBlank behind = c :: rest ∧
      Reaches (Parser.value fuel depth (skipBlank (used ++ c :: rest))) (value, behind) := by
  obtain ⟨before, inside, behind⟩ := element
  refine ⟨_, behind.skipBlank_append shown rest, ?_⟩
  simp only [List.length_append] at enough
  simp only [List.append_assoc]
  rw [skipBlank_value_append before inside]
  exact below.value depth inside (behind.endsNumeral other rest) (by omega)

private theorem reaches_items_succ {items : List Json} (rest : Text)
    (written : ItemsText used items)
    (enough : 2 * used.length + 1 < fuel + 1) :
    Reaches (Parser.items (fuel + 1) depth (skipBlank (used ++ ']' :: rest))) (items, rest) := by
  cases written with
  | one last =>
      obtain ⟨behind, closed, read⟩ :=
        reaches_element below depth last (c := ']') (by decide) (by decide) rest (by omega)
      rw [Parser.items]
      refine read.elim ?_ fun failure limit => .inr ⟨failure, rfl, limit⟩
      simp only [closed]
      exact .inl rfl
  | @more text others item items first further =>
      simp only [List.length_append, List.length_cons] at enough
      obtain ⟨behind, comma, read⟩ :=
        reaches_element below depth first (c := ',') (by decide) (by decide) (others ++ ']' :: rest)
          (by omega)
      rw [List.append_assoc, List.cons_append, Parser.items]
      refine read.elim ?_ fun failure limit => .inr ⟨failure, rfl, limit⟩
      simp only [comma]
      have read := below.items depth rest further (by omega)
      exact read.elim (.inl rfl) fun failure limit => .inr ⟨failure, rfl, limit⟩

omit below in
private theorem memberName_append {front text back : Text} {name : CodePoints}
    (before : Blanks front)
    (quoted : StringText text name) (behind : Blanks back) (rest : Text) :
    memberName (skipBlank (front ++ (text ++ (back ++ ':' :: rest)))) =
      .ok (name, skipBlank rest) := by
  obtain ⟨body, shape, read⟩ := string_append quoted (back ++ ':' :: rest)
  rw [shape, before.skipBlank_append (by decide), memberName, read]
  simp only [behind.skipBlank_append (c := ':') (by decide)]

private theorem reaches_members_succ {entries : List (CodePoints × Json)} (rest : Text)
    (written : MembersText used entries) (enough : 2 * used.length + 1 < fuel + 1) :
    Reaches (Parser.members (fuel + 1) depth (skipBlank (used ++ '\x7d' :: rest)))
      (entries, rest) := by
  cases written with
  | one last =>
      obtain ⟨before, quoted, spaced, inside⟩ := last
      simp only [List.length_append, List.length_cons] at enough
      obtain ⟨behind, closed, read⟩ :=
        reaches_element below depth inside (c := '\x7d') (by decide) (by decide) rest (by omega)
      simp only [List.append_assoc, List.cons_append]
      rw [Parser.members, memberName_append before quoted spaced]
      dsimp only
      refine read.elim ?_ fun failure limit => .inr ⟨failure, rfl, limit⟩
      simp only [closed]
      exact .inl rfl
  | @more text others entry entries first further =>
      obtain ⟨before, quoted, spaced, inside⟩ := first
      simp only [List.length_append, List.length_cons] at enough
      obtain ⟨behind, comma, read⟩ :=
        reaches_element below depth inside (c := ',') (by decide) (by decide)
          (others ++ '\x7d' :: rest) (by omega)
      simp only [List.append_assoc, List.cons_append]
      rw [Parser.members, memberName_append before quoted spaced]
      dsimp only
      refine read.elim ?_ fun failure limit => .inr ⟨failure, rfl, limit⟩
      simp only [comma]
      have read := below.members depth rest further (by omega)
      exact read.elim (.inl rfl) fun failure limit => .inr ⟨failure, rfl, limit⟩

end Step

private theorem readsDerivable (fuel : Nat) : ReadsDerivable fuel := by
  induction fuel with
  | zero =>
      exact ⟨fun _ _ _ _ _ _ enough => absurd enough (Nat.not_lt_zero _),
        fun _ _ _ _ _ enough => absurd enough (Nat.not_lt_zero _),
        fun _ _ _ _ _ enough => absurd enough (Nat.not_lt_zero _)⟩
  | succ fuel below =>
      exact ⟨fun depth => reaches_value_succ below depth,
        fun depth => reaches_items_succ below depth,
        fun depth => reaches_members_succ below depth⟩

/-! ## Whole texts -/

/-- A text of the grammar does not start with a byte order mark. -/
theorem begins_mark_eq_false {text : Text} {value : Json} (written : DocumentText text value) :
    text.begins "\uFEFF" = false := by
  obtain @⟨front, text, back, _, before, inside, behind⟩ := written
  obtain ⟨c, others, rfl, opens⟩ := exists_value_cons inside
  cases front with
  | nil => simp [Text.begins, List.isPrefixOf, opens.2.2.2.symm]
  | cons d front =>
      have blank := before d List.mem_cons_self
      have differ : '\uFEFF' ≠ d := by
        rintro rfl
        revert blank
        decide
      simp [Text.begins, List.isPrefixOf, differ]

theorem documentText_of_document {text : Text} {value : Json}
    (taken : document text = .ok value) : DocumentText text value := by
  rw [document] at taken
  split at taken
  · cases taken
  · split at taken
    · cases taken
    next found behind value_eq =>
      split at taken
      next ended =>
        cases taken
        obtain ⟨used, inside, used_eq⟩ := (takesDerivable _).value value_eq
        obtain ⟨front, before, text_eq⟩ := exists_blanks text
        obtain ⟨back, blank, behind_eq⟩ := exists_blanks behind
        rw [ended, List.append_nil] at behind_eq
        rw [text_eq, used_eq, behind_eq]
        exact .padded before inside blank
      · cases taken

theorem document_of_documentText {text : Text} {value : Json} (written : DocumentText text value) :
    document text = .ok value ∨ ∃ failure, document text = .error failure ∧ failure.IsLimit := by
  have unmarked := begins_mark_eq_false written
  rw [document, unmarked]
  obtain @⟨front, text, back, _, before, inside, behind⟩ := written
  rw [skipBlank_value_append before inside]
  have ended : skipBlank back = [] := List.dropWhile_eq_nil_iff.mpr (blanks_iff.mp behind)
  have ends : EndsNumeral back := by
    simpa using endsNumeral_append (blanks_iff.mp behind) endsNumeral_nil
  have read := (readsDerivable (2 * (front ++ (text ++ back)).length + 2)).value depthLimit inside
    ends (by simp only [List.length_append]; omega)
  refine read.elim ?_ fun failure limit => .inr ⟨failure, rfl, limit⟩
  simp only [ended]
  exact .inl rfl

end Parser
end Json
end DiscoveryFiles
