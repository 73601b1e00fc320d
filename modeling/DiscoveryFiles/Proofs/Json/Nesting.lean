import DiscoveryFiles.Proofs.Json.Number

/-!
# Nesting and integer literals

How deep the brackets and braces of any text nest, and which integer literals stand in it, whether
or not the text is JSON.  What the grammar derives closes everything that it opens.
-/

namespace DiscoveryFiles
namespace Json

/-! ## Nesting -/

/-- Whether a place of a text is inside a string. -/
inductive Surrounding where
  /-- Outside all strings. -/
  | outside
  /-- Inside a string. -/
  | inside
  /-- Inside a string, behind a backslash. -/
  | escaping
  deriving DecidableEq

/-- What is known at a place of a text from the characters before it. -/
structure Scan where
  /-- Whether the place is inside a string. -/
  surrounding : Surrounding
  /-- The number of brackets and braces that are open. -/
  depth : Nat
  deriving DecidableEq

/-- Go on by one character.  Brackets and braces count outside strings, whether or not they
match. -/
def Scan.step (scan : Scan) (c : Char) : Scan :=
  match scan.surrounding with
  | .outside =>
      if c = '"' then ⟨.inside, scan.depth⟩
      else if c = '[' ∨ c = '\x7b' then ⟨.outside, scan.depth + 1⟩
      else if c = ']' ∨ c = '\x7d' then ⟨.outside, scan.depth - 1⟩
      else scan
  | .inside =>
      if c = '"' then ⟨.outside, scan.depth⟩
      else if c = '\\' then ⟨.escaping, scan.depth⟩
      else scan
  | .escaping => ⟨.inside, scan.depth⟩

/-- Go on over a text. -/
def Scan.over (scan : Scan) (text : Text) : Scan :=
  text.foldl Scan.step scan

/-- What is known behind a text. -/
def scan (text : Text) : Scan :=
  Scan.over ⟨.outside, 0⟩ text

/-- Whether fewer than so many brackets and braces are open at every place of a text. -/
def NestsBelow (bound : Nat) (text : Text) : Prop :=
  ∀ front, front <+: text → (scan front).depth < bound

/-! ## Integer literals -/

/-- Whether a value may start behind a text. -/
inductive OpensValue : Text → Prop where
  /-- At the start. -/
  | start {blanks : Text} (blank : Blanks blanks) : OpensValue blanks
  /-- In an array, or behind the name of a member. -/
  | behind {front blanks : Text} {c : Char} (opener : c = '[' ∨ c = ',' ∨ c = ':')
      (blank : Blanks blanks) : OpensValue (front ++ c :: blanks)

/-- Whether digits that end in front of a text go on there: with further digits, with a fraction or
with an exponent. -/
def GoesOn (text : Text) : Prop :=
  ∃ part rest, text = part ++ rest ∧ part ≠ [] ∧
    (Digits part ∨ (∃ places, FractionText part places) ∨ ∃ power, ExponentText part power)

/-- The digits of an integer literal that stands where a value may start. -/
inductive IntegerLiteral : Text → Text → Prop where
  /-- An optional sign and digits that do not go on. -/
  | literal {front sign digits back : Text} {negative : Bool}
      (outside : (scan front).surrounding = .outside) (opens : OpensValue front)
      (signed : SignText sign negative) (whole : WholeText digits) (ends : ¬GoesOn back) :
      IntegerLiteral (front ++ (sign ++ (digits ++ back))) digits

/-- Whether no integer literal has more digits than this. -/
def HasShortIntegers (bound : Nat) (text : Text) : Prop :=
  ∀ digits, IntegerLiteral text digits → digits.length ≤ bound

/-! ## Short texts -/

private theorem depth_step_le (scan : Scan) (c : Char) : (scan.step c).depth ≤ scan.depth + 1 := by
  rw [Scan.step]
  split
  · split
    · exact Nat.le_succ _
    · split
      · exact Nat.le_refl _
      · split
        · exact Nat.le_succ_of_le (Nat.sub_le _ _)
        · exact Nat.le_succ _
  · split
    · exact Nat.le_succ _
    · split <;> exact Nat.le_succ _
  · exact Nat.le_succ _

private theorem depth_over_le (scan : Scan) (text : Text) :
    (scan.over text).depth ≤ scan.depth + text.length := by
  induction text generalizing scan with
  | nil => exact Nat.le_refl _
  | cons c text induction =>
      have later : (scan.over (c :: text)).depth ≤ (scan.step c).depth + text.length :=
        induction (scan.step c)
      have now := depth_step_le scan c
      rw [List.length_cons]
      omega

/-- A text nests no deeper than it is long. -/
theorem nestsBelow_of_length_lt {bound : Nat} {text : Text} (short : text.length < bound) :
    NestsBelow bound text := by
  intro front before
  have shorter := before.length_le
  have shallow : (scan front).depth ≤ 0 + front.length := depth_over_le _ front
  omega

/-- No integer literal of a text has more digits than the text has characters. -/
theorem hasShortIntegers_of_length_le {bound : Nat} {text : Text} (short : text.length ≤ bound) :
    HasShortIntegers bound text := by
  rintro digits ⟨-, -, -, -, -⟩
  simp only [List.length_append] at short
  omega

/-! ## What leaves the nesting as it is -/

theorem over_append (scan : Scan) (text more : Text) :
    scan.over (text ++ more) = (scan.over text).over more :=
  List.foldl_append

theorem over_cons (scan : Scan) (c : Char) (text : Text) :
    scan.over (c :: text) = (scan.step c).over text :=
  rfl

theorem over_nil (scan : Scan) : scan.over [] = scan :=
  rfl

/-- Whether a text opens and closes the same, outside strings. -/
def Balanced (text : Text) : Prop :=
  ∀ depth, Scan.over ⟨.outside, depth⟩ text = ⟨.outside, depth⟩

theorem Balanced.append {text more : Text} (first : Balanced text) (second : Balanced more) :
    Balanced (text ++ more) := by
  intro depth
  rw [over_append, first, second]

/-- Whether a character neither delimits a string nor a container. -/
def IsPlain (c : Char) : Prop :=
  c ≠ '"' ∧ c ≠ '[' ∧ c ≠ '\x7b' ∧ c ≠ ']' ∧ c ≠ '\x7d'

instance (c : Char) : Decidable (IsPlain c) :=
  inferInstanceAs (Decidable (_ ∧ _ ∧ _ ∧ _ ∧ _))

theorem balanced_nil : Balanced [] :=
  fun _ => rfl

theorem Balanced.cons {c : Char} {text : Text} (plain : IsPlain c) (rest : Balanced text) :
    Balanced (c :: text) := by
  intro depth
  obtain ⟨quote, bracket, brace, closing, closingBrace⟩ := plain
  rw [over_cons, Scan.step]
  simp only [quote, bracket, brace, closing, closingBrace, or_self, if_false]
  exact rest depth

theorem balanced_of_plain {text : Text} (plain : ∀ c ∈ text, IsPlain c) : Balanced text := by
  induction text with
  | nil => exact balanced_nil
  | cons c text induction =>
      obtain ⟨first, others⟩ := List.forall_mem_cons.mp plain
      exact (induction others).cons first

/-! ## What is plain -/

theorem Blanks.isPlain {blanks : Text} (blank : Blanks blanks) : ∀ c ∈ blanks, IsPlain c := by
  intro c member
  obtain rfl | rfl | rfl | rfl := blank c member <;> decide

theorem Digits.isPlain {digits : Text} (written : Digits digits) : ∀ c ∈ digits, IsPlain c := by
  intro c member
  have digit := written.isDigit c member
  refine ⟨?_, ?_, ?_, ?_, ?_⟩
  all_goals
    rintro rfl
    cases digit

theorem SignText.isPlain {sign : Text} {negative : Bool} (signed : SignText sign negative) :
    ∀ c ∈ sign, IsPlain c := by
  cases signed <;> simp [IsPlain]

theorem WholeText.isPlain {whole : Text} (written : WholeText whole) :
    ∀ c ∈ whole, IsPlain c := by
  cases written with
  | zero => simp [IsPlain]
  | positive digits => exact digits.isPlain

theorem FractionText.isPlain {fraction places : Text} (written : FractionText fraction places) :
    ∀ c ∈ fraction, IsPlain c := by
  cases written with
  | absent => simp
  | present digits => exact List.forall_mem_cons.mpr ⟨by decide, digits.isPlain⟩

theorem ExponentText.isPlain {exponent : Text} {power : Int}
    (written : ExponentText exponent power) : ∀ c ∈ exponent, IsPlain c := by
  have mark_plain {mark : Char} (marks : mark = 'e' ∨ mark = 'E') : IsPlain mark := by
    obtain rfl | rfl := marks <;> decide
  cases written with
  | absent => simp
  | unsigned marks digits => exact List.forall_mem_cons.mpr ⟨mark_plain marks, digits.isPlain⟩
  | positive marks digits | negative marks digits =>
      refine List.forall_mem_cons.mpr ⟨mark_plain marks, ?_⟩
      exact List.forall_mem_cons.mpr ⟨by decide, digits.isPlain⟩

theorem NumberText.isPlain {text : Text} {value : Json} (written : NumberText text value) :
    ∀ c ∈ text, IsPlain c := by
  cases written with
  | integer signed digits =>
      exact List.forall_mem_append.mpr ⟨signed.isPlain, digits.isPlain⟩
  | double signed digits fractional exponential =>
      simp only [List.forall_mem_append]
      exact ⟨signed.isPlain, digits.isPlain, fractional.isPlain, exponential.isPlain⟩

theorem ConstantText.isPlain {text : Text} {value : Json} (written : ConstantText text value) :
    ∀ c ∈ text, IsPlain c := by
  cases written <;> simp [IsPlain]

theorem Blanks.balanced {blanks : Text} (blank : Blanks blanks) : Balanced blanks :=
  balanced_of_plain blank.isPlain

/-! ## What is balanced -/

theorem IsHexDigit.ne {c : Char} {n : Nat} (digit : IsHexDigit c n) : c ≠ '"' ∧ c ≠ '\\' := by
  have each : ∀ n < 16, (n.digitChar ≠ '"' ∧ n.digitChar ≠ '\\') ∧
      n.digitChar.toUpper ≠ '"' ∧ n.digitChar.toUpper ≠ '\\' := by
    decide +kernel
  obtain ⟨small, rfl | rfl⟩ := digit
  · exact (each n small).1
  · exact (each n small).2

/-- A string stays a string over its units. -/
theorem UnitText.over {text : Text} {unit : CodePoint} (written : UnitText text unit)
    (depth : Nat) : Scan.over ⟨.inside, depth⟩ text = ⟨.inside, depth⟩ := by
  cases written with
  | plain shown unmarked => simp [over_cons, over_nil, Scan.step, unmarked]
  | short => simp [over_cons, over_nil, Scan.step]
  | numbered first second third fourth =>
      simp [over_cons, over_nil, Scan.step, first.ne, second.ne, third.ne, fourth.ne]

theorem UnitsText.over {text : Text} {units : CodePoints} (written : UnitsText text units)
    (depth : Nat) : Scan.over ⟨.inside, depth⟩ text = ⟨.inside, depth⟩ := by
  induction written with
  | nil => rfl
  | cons first _ induction => rw [over_append, first.over, induction]

theorem StringText.balanced {text : Text} {points : CodePoints} (written : StringText text points) :
    Balanced text := by
  obtain ⟨inside, -⟩ := written
  intro depth
  rw [over_cons, over_append, show Scan.step ⟨.outside, depth⟩ '"' = ⟨.inside, depth⟩ from rfl,
    inside.over]
  rfl

theorem Balanced.bracketed {text : Text} (inside : Balanced text) :
    Balanced ('[' :: (text ++ [']'])) := by
  intro depth
  rw [over_cons, over_append, show Scan.step ⟨.outside, depth⟩ '[' = ⟨.outside, depth + 1⟩ from rfl,
    inside]
  rfl

private theorem Balanced.braced {text : Text} (inside : Balanced text) :
    Balanced ('\x7b' :: (text ++ ['\x7d'])) := by
  intro depth
  rw [over_cons, over_append,
    show Scan.step ⟨.outside, depth⟩ '\x7b' = ⟨.outside, depth + 1⟩ from rfl, inside]
  rfl

mutual

theorem ValueText.balanced {text : Text} {value : Json} : ValueText text value → Balanced text
  | .constant word => balanced_of_plain word.isPlain
  | .number numeral => balanced_of_plain numeral.isPlain
  | .string quoted => quoted.balanced
  | .emptyArray blank => blank.balanced.bracketed
  | .array inside => inside.balanced.bracketed
  | .emptyObject blank => blank.balanced.braced
  | .object inside _ => inside.balanced.braced

theorem ElementText.balanced {text : Text} {value : Json} : ElementText text value → Balanced text
  | .padded before inside behind =>
      before.balanced.append (inside.balanced.append behind.balanced)

theorem ItemsText.balanced {text : Text} {items : List Json} : ItemsText text items → Balanced text
  | .one last => last.balanced
  | .more first rest => first.balanced.append (rest.balanced.cons (by decide))

theorem MemberText.balanced {text : Text} {entry : CodePoints × Json} :
    MemberText text entry → Balanced text
  | .named before quoted behind inside =>
      before.balanced.append
        (quoted.balanced.append (behind.balanced.append (inside.balanced.cons (by decide))))

theorem MembersText.balanced {text : Text} {entries : List (CodePoints × Json)} :
    MembersText text entries → Balanced text
  | .one last => last.balanced
  | .more first rest => first.balanced.append (rest.balanced.cons (by decide))

end

end Json
end DiscoveryFiles
