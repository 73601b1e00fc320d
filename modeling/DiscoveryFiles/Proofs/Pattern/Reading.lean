import DiscoveryFiles.Proofs.Pattern.Item
import Mathlib.Data.List.Nodup

/-!
# Reading written patterns back

The reader takes the text of a written pattern apart again, item by item, and what it returns is a
pattern that the written one stands for.
-/

namespace DiscoveryFiles
namespace Pattern
namespace Parser

variable {initial : Bool} {item : Pattern} {items : List Pattern} {text : CodePoints}
  {known : List CodePoints} {after : Pattern → Cursor → Prop}

/-! ## Reading on -/

/-- Before a text, a branch that holds items already is read on, with fuel enough for the text. -/
def ReadsOn (initial : Bool) (items : List Pattern) (text : CodePoints) (known : List CodePoints)
    (after : Pattern → Cursor → Prop) : Prop :=
  ∀ fuel, 2 * (tokensOf text).length + 1 ≤ fuel →
    Passes (At text known) (branch fuel initial [] items) after

/-- What the branch makes of a written item. -/
theorem ReadsOn.written {written : CodePoints} {others : List Pattern} (whole : IsWhole written)
    (nonempty : written ≠ []) (readsOn : ReadsOn initial others text known after)
    (step : ∀ fuel, Passes (At text known) (branch fuel initial [] others) after →
      Passes (At (written ++ text) known) (branch (fuel + 1) initial [] items) after) :
    ReadsOn initial items (written ++ text) known after := by
  intro fuel enough
  have own := whole.tokensOf_pos nonempty
  rw [whole.tokensOf_append, List.length_append] at enough
  obtain ⟨fuel, rfl⟩ := Nat.exists_eq_add_of_le' (Nat.le_of_add_left_le enough)
  exact step fuel (readsOn fuel (by omega))

theorem ReadsOn.mono {others : List CodePoints} (readsOn : ReadsOn initial items text others after)
    (subset : known ⊆ others) : ReadsOn initial items text known after :=
  fun fuel enough cursor facing => readsOn fuel enough cursor (facing.mono subset)

private theorem readsOn_quantifier (repeatable : IsRepeatable item) (quantifier : Option Quantifier)
    (keeps : KeepsManner text)
    (readsOn : ReadsOn initial (quantified item quantifier :: items) text known after) :
    ReadsOn initial (item :: items) (quantifierWritten quantifier ++ text) known after := by
  cases quantifier with
  | none => exact readsOn
  | some quantifier =>
      refine readsOn.written (isWhole_quantifier _) ?_ fun fuel =>
        passes_branch_quantifier repeatable quantifier keeps
      cases quantifier with
      | mk repetition isLazy => cases repetition <;> simp [quantifierWritten, Repetition.written]

private theorem readsOn_single (single : Single) (fits : single.Fits text)
    (readsOn : ReadsOn initial (.one single.cls :: items) text known after) :
    ReadsOn initial items (single.written ++ text) known after := by
  cases single with
  | dot =>
      exact readsOn.written (isWhole_single .dot) (by simp [Single.written]) fun fuel =>
        passes_branch_simple (.scalar '.') (by simp)
  | brace =>
      exact readsOn.written (isWhole_single .brace) (by simp [Single.written]) fun fuel =>
        passes_branch_brace fits
  | plain point ordinary =>
      have subset : ['\\', '*', '+', '?', '\x7b', '[', '|', '(', ')'] ⊆ signs := by decide
      refine readsOn.written (isWhole_single (.plain point ordinary)) (by simp [Single.written])
        fun fuel others => passes_branch_simple point (fun c sign => ordinary c (subset sign)) ?_
      rw [simple_of_ordinary ordinary]
      exact others
  | escape written noReference =>
      refine readsOn.written (isWhole_single (.escape written noReference))
        (by simp [Single.written]) fun fuel => ?_
      obtain ⟨token, tail, starts, reads⟩ := readsBack_escape written noReference fits
      exact passes_branch_escaped starts (reads known)
  | category kind lacking =>
      refine readsOn.written (isWhole_single (.category kind lacking)) (by simp [Single.written])
        fun fuel => ?_
      obtain ⟨token, tail, starts, reads⟩ := readsBack_category kind lacking
      exact passes_branch_escaped starts (reads known)
  | bracket cls =>
      have written_eq : (Single.bracket cls).written ++ text =
          .scalar '[' :: ((if cls.negated then [.scalar '^'] else []) ++
            (partsWritten (cls.first :: cls.others) ++ .scalar ']' :: text)) := by
        simp [Single.written, Bracket.written]
      refine readsOn.written (isWhole_single (.bracket cls))
        (by simp [Single.written, Bracket.written]) fun fuel => ?_
      rw [written_eq]
      exact passes_branch_bracket (passes_bracket cls)

private theorem readsOn_place (place : Place)
    (readsOn : ReadsOn initial (.anchor place.anchor :: items) text known after) :
    ReadsOn initial items (place.written ++ text) known after := by
  have nonempty : place.written ≠ [] := by cases place <;> simp [Place.written]
  refine readsOn.written (isWhole_place place) nonempty fun fuel => ?_
  cases place with
  | caret => exact passes_branch_simple (.scalar '^') (by simp)
  | dollar => exact passes_branch_simple (.scalar '$') (by simp)
  | start | finish | edge | noEdge =>
      exact passes_branch_escaped (.escaped _ _) (Passes.returns _)

/-! ## The end of a row -/

/-- An alternative ends where a bar follows, a closing parenthesis or nothing. -/
def Stops (text : CodePoints) : Prop :=
  ∀ point, text.head? = some point → point = .scalar '|' ∨ point = .scalar ')'

/-- The last alternative ends where a closing parenthesis follows or nothing. -/
def Closes (text : CodePoints) : Prop :=
  ∀ point, text.head? = some point → point = .scalar ')'

theorem Closes.stops (closes : Closes text) : Stops text :=
  fun point head_eq => .inr (closes point head_eq)

private theorem stops_cons {c : Char} (ends : c = '|' ∨ c = ')') (rest : CodePoints) :
    Stops (.scalar c :: rest) := by
  rintro _ ⟨⟩
  simpa using ends

private theorem readsOn_stop (stops : Stops text) :
    ReadsOn initial items text known fun pattern cursor =>
      pattern = sequenceOf items ∧ At text known cursor := by
  intro fuel enough
  obtain ⟨fuel, rfl⟩ := Nat.exists_eq_add_of_le' (Nat.le_of_add_left_le enough)
  rw [branch]
  refine Passes.here_bind fun index => Passes.get_bind fun cursor facing =>
    Passes.at_cursor ?_ facing
  rw [facing.rest_eq]
  cases facing.whole with
  | nil =>
      rw [tokensOf_nil]
      exact .returns _
  | @cons _ rest token starts =>
      have ends : (token.is '|' || token.is ')') = true := by
        rw [Bool.or_eq_true, starts.is_iff (by decide), starts.is_iff (by decide)]
        obtain ⟨point, head_eq⟩ : ∃ point, text.head? = some point := by
          cases starts with
          | plain | escaped => exact ⟨_, rfl⟩
        rw [head_eq]
        simpa using stops point head_eq
      rw [starts.tokensOf_eq]
      simp only [ends, if_true]
      exact .returns _

/-- The signs of counts neither end a row nor start an item. -/
theorem forall_ne_of_closesCounts {counts : CodePoints} (closes : ClosesCounts counts) :
    ∀ point ∈ counts, point ≠ .scalar '|' ∧ point ≠ .scalar ')' := by
  have digits (low : List (Fin 10)) : ∀ point ∈ digitsWritten low,
      point ≠ .scalar '|' ∧ point ≠ .scalar ')' := by
    have other : ∀ digit : Fin 10, digitLetter digit ≠ '|' ∧ digitLetter digit ≠ ')' := by decide
    simpa [digitsWritten] using fun digit _ => other digit
  rcases closes with ⟨low, -, rfl⟩ | ⟨low, high, rfl⟩
  · rw [List.forall_mem_append, List.forall_mem_singleton]
    exact ⟨digits low, by decide⟩
  · rw [List.forall_mem_append, List.forall_mem_append, List.forall_mem_cons,
      List.forall_mem_singleton]
    exact ⟨⟨digits low, by decide, digits high⟩, by decide⟩

/-- Counts do not go on behind the end of a row. -/
theorem opensCounts_of_append {row : CodePoints} (stops : Stops text)
    (opens : OpensCounts (row ++ text)) : OpensCounts row := by
  obtain ⟨counts, closes, rest, split_eq⟩ := opens
  rcases List.append_eq_append_iff.mp split_eq with ⟨more, rfl, -⟩ | ⟨more, rfl, rfl⟩
  · exact ⟨counts, closes, List.prefix_append counts more⟩
  · cases more with
    | nil => exact ⟨_, closes, by simp⟩
    | cons point more =>
        have inside : point ∈ row ++ point :: more := by simp
        obtain ⟨noBar, noEnd⟩ := forall_ne_of_closesCounts closes point inside
        exact ((stops point rfl).elim noBar noEnd).elim

private theorem lacksOctal_of_stops (stops : Stops text) : LacksOctal text := by
  intro digit head_eq
  have other : ∀ digit : Fin 8, digitLetter digit ≠ '|' ∧ digitLetter digit ≠ ')' := by decide
  rcases stops _ head_eq with bar | close
  · exact (other digit).1 (CodePoint.scalar.inj bar)
  · exact (other digit).2 (CodePoint.scalar.inj close)

/-- What comes behind a row is not read together with its last character. -/
theorem fits_append_of_stops {single : Single} {written : CodePoints} (stops : Stops text)
    (fits : single.Fits written) : single.Fits (written ++ text) := by
  cases single with
  | brace => exact mt (opensCounts_of_append stops) fits
  | escape other =>
      cases written with
      | nil => exact fits_of_lacksOctal (lacksOctal_of_stops stops) other
      | cons => exact fits_of_head? (by rfl) fits
  | dot | plain | category | bracket => trivial

/-- No item starts with a sign that would change the manner of a quantifier. -/
theorem keepsManner_row (row : Row) (stops : Stops text) : KeepsManner (row.written ++ text) := by
  cases row with
  | done =>
      constructor
      · intro head_eq
        exact absurd (stops _ head_eq) (by decide)
      · intro head_eq
        exact absurd (stops _ head_eq) (by decide)
  | place place => cases place <;> simp [KeepsManner, Row.written, Place.written]
  | single single =>
      cases single with
      | plain point ordinary =>
          simpa [KeepsManner, Row.written, Single.written] using
            ⟨ordinary '?' (by decide), ordinary '+' (by decide)⟩
      | dot | brace | escape | category | bracket =>
          simp [KeepsManner, Row.written, Single.written, Bracket.written]
  | group mark => cases mark <;> simp [KeepsManner, Row.written, GroupMark.written]

private theorem keepsManner_expression (expression : Expression) (closes : Closes text) :
    KeepsManner (expression.written ++ text) := by
  cases expression with
  | last row => exact keepsManner_row row closes.stops
  | either row others =>
      rw [Expression.written, List.append_assoc]
      exact keepsManner_row row (stops_cons (.inl rfl) _)

/-! ## Rows and alternatives -/

/-- Names of groups in the order in which they become known. -/
theorem perm_known (first second third known : List CodePoints) :
    (first ++ second ++ third ++ known).Perm (third ++ (second ++ (first ++ known))) := by
  refine List.perm_iff_count.mpr fun name => ?_
  simp only [List.count_append]
  omega

/-- A group is read, and then the row is read on. -/
theorem readsOn_group (mark : GroupMark) (body : Expression)
    (fresh : ∀ name ∈ mark.names, name ∉ known)
    (body_read : ∀ fuel, 2 * (tokensOf (body.written ++ .scalar ')' :: text)).length + 2 ≤ fuel →
      Passes (At (body.written ++ .scalar ')' :: text) (mark.names ++ known))
        (alternatives fuel false (some []))
        fun pattern cursor => body.StandsFor pattern ∧
          At (.scalar ')' :: text) (body.names ++ (mark.names ++ known)) cursor)
    (others : ∀ number pattern, body.StandsFor pattern →
      ReadsOn initial (.group number pattern :: items) text
        (body.names ++ (mark.names ++ known)) after) :
    ReadsOn initial items (mark.written ++ (body.written ++ .scalar ')' :: text)) known after := by
  intro fuel enough
  obtain ⟨tail, written_eq⟩ : ∃ tail, mark.written = .scalar '(' :: tail := by
    cases mark <;> exact ⟨_, rfl⟩
  have mark_count := (isWhole_mark mark).tokensOf_pos (by simp [written_eq])
  have closing : Starts (.scalar ')' :: text) ⟨false, .scalar ')'⟩ text := .plain (by decide) text
  have body_count := congrArg List.length ((isWhole_expression body).tokensOf_append
    (.scalar ')' :: text))
  rw [closing.tokensOf_eq, List.length_append, List.length_cons] at body_count
  rw [(isWhole_mark mark).tokensOf_append, List.length_append] at enough
  obtain ⟨fuel, rfl⟩ := Nat.exists_eq_add_of_le' (Nat.le_of_add_left_le enough)
  have closes : Closes (.scalar ')' :: text) := by
    rintro _ ⟨⟩
    rfl
  rw [written_eq, List.cons_append]
  exact passes_branch_group
    (passes_opening mark written_eq (keepsManner_expression body closes).1 fresh)
    (body_read fuel (by omega)) fun number pattern isBody =>
      others number pattern isBody fuel (by omega)

private theorem readsOn_end {row : Row} {more : List Pattern} (read : row.StandsFor more)
    (stops : Stops text) :
    ReadsOn initial (more.reverse ++ []) text known fun pattern cursor =>
      (∃ items, row.StandsFor items ∧ pattern = sequenceOf items.reverse) ∧
        At text known cursor := by
  rw [List.append_nil]
  exact fun fuel enough => (readsOn_stop stops fuel enough).imp fun pattern cursor ended =>
    ⟨⟨more, read, ended.1⟩, ended.2⟩

private theorem passes_alternatives_first {start : CodePoints} {outside : List CodePoints}
    {fuel : Nat}
    {scope : Option (List Flag)} {IsFirst : Pattern → Prop} (noFlags : scope.getD [] = [])
    (enough : 2 * (tokensOf start).length + 1 ≤ fuel)
    (first : ReadsOn initial [] start known fun pattern cursor =>
      IsFirst pattern ∧ At text outside cursor)
    (others : ∀ pattern, IsFirst pattern → Passes (At text outside)
      (do
        if ← accept '|' then return .either pattern (← alternatives fuel false scope)
        else return pattern) after) :
    Passes (At start known) (alternatives (fuel + 1) initial scope) after := by
  rw [alternatives]
  refine Passes.get_bind fun cursor facing => Passes.at_cursor ?_ facing
  rw [facing.flags_eq, noFlags]
  exact (first fuel enough).bind fun pattern => .of_and fun isFirst => others pattern isFirst

mutual

/-- Alternatives are read up to what closes them. -/
theorem passes_alternatives : ∀ (expression : Expression) {text : CodePoints}
    {known : List CodePoints} {fuel : Nat} (initial : Bool) (scope : Option (List Flag)),
    expression.Fits → (expression.names ++ known).Nodup → Closes text →
    scope.getD [] = [] → 2 * (tokensOf (expression.written ++ text)).length + 2 ≤ fuel →
    Passes (At (expression.written ++ text) known) (alternatives fuel initial scope)
      fun pattern cursor =>
        expression.StandsFor pattern ∧ At text (expression.names ++ known) cursor
  | .last row, text, known, fuel, initial, scope => by
      intro fit fresh closes noFlags enough
      obtain ⟨fuel, rfl⟩ := Nat.exists_eq_add_of_le' (Nat.le_of_add_left_le enough)
      refine passes_alternatives_first noFlags (by rw [Expression.written] at enough ⊢; omega)
        (readsOn_row row fit fresh closes.stops fun more read => readsOn_end read closes.stops)
        fun pattern isFirst => ?_
      have noBar : text.head? ≠ some (.scalar '|') := by
        intro head_eq
        exact absurd (closes _ head_eq) (by decide)
      exact (passes_accept_not (by decide) noBar).andThen
        (.pure fun cursor facing => ⟨isFirst, facing⟩)
  | .either row others, text, known, fuel, initial, scope => by
      intro fit fresh closes noFlags enough
      obtain ⟨fuel, rfl⟩ := Nat.exists_eq_add_of_le' (Nat.le_of_add_left_le enough)
      have order := perm_known row.names others.names [] known
      rw [List.append_nil, List.nil_append] at order
      have others_fresh := order.nodup_iff.mp fresh
      have row_fresh := (List.nodup_append'.mp others_fresh).2.1
      have bar : Starts (.scalar '|' :: (others.written ++ text)) ⟨false, .scalar '|'⟩
          (others.written ++ text) := .plain (by decide) _
      have stops : Stops (.scalar '|' :: (others.written ++ text)) := stops_cons (.inl rfl) _
      rw [Expression.written, List.append_assoc, List.cons_append] at enough ⊢
      have count := congrArg List.length ((isWhole_row row).tokensOf_append
        (.scalar '|' :: (others.written ++ text)))
      rw [bar.tokensOf_eq, List.length_append, List.length_cons] at count
      refine passes_alternatives_first noFlags (by omega)
        (readsOn_row row fit.1 row_fresh stops fun more read => readsOn_end read stops)
        fun pattern isFirst => (passes_accept (by decide)).andThen ?_
      refine (passes_alternatives others false scope fit.2 others_fresh closes noFlags
        (by omega)).bind fun other => .of_and fun read => .pure fun cursor facing => ⟨?_, ?_⟩
      · obtain ⟨items, row_read, rfl⟩ := isFirst
        exact ⟨items, other, row_read, read, rfl⟩
      · exact facing.mono order.symm.subset

/-- The items of a row are read, before whatever comes behind it. -/
theorem readsOn_row : ∀ (row : Row) {text : CodePoints} {known : List CodePoints}
    {initial : Bool} {items : List Pattern} {after : Pattern → Cursor → Prop},
    row.Fits → (row.names ++ known).Nodup → Stops text →
    (∀ more, row.StandsFor more →
      ReadsOn initial (more.reverse ++ items) text (row.names ++ known) after) →
    ReadsOn initial items (row.written ++ text) known after
  | .done, text, known, initial, items, after => by
      intro fit fresh stops others
      exact others [] rfl
  | .place place behind, text, known, initial, items, after => by
      intro fit fresh stops others
      rw [Row.written, List.append_assoc]
      refine readsOn_place place (readsOn_row behind fit fresh stops fun more read => ?_)
      simpa [Row.names] using others _ ⟨more, read, rfl⟩
  | .single single quantifier behind, text, known, initial, items, after => by
      intro fit fresh stops others
      rw [Row.written, List.append_assoc, List.append_assoc]
      have fits := fits_append_of_stops stops fit.1
      rw [List.append_assoc] at fits
      refine readsOn_single single fits
        (readsOn_quantifier (.one single.cls) quantifier (keepsManner_row behind stops)
          (readsOn_row behind fit.2 fresh stops fun more read => ?_))
      simpa [Row.names] using others _ ⟨more, read, rfl⟩
  | .group mark body quantifier behind, text, known, initial, items, after => by
      intro fit fresh stops others
      have order := perm_known mark.names body.names behind.names known
      have behind_fresh := order.nodup_iff.mp fresh
      have body_fresh := (List.nodup_append'.mp behind_fresh).2.1
      have mark_fresh := (List.nodup_append'.mp (List.nodup_append'.mp body_fresh).2.1).2.2
      have written_eq : (Row.group mark body quantifier behind).written ++ text =
          mark.written ++ (body.written ++
            .scalar ')' :: (quantifierWritten quantifier ++ (behind.written ++ text))) := by
        simp [Row.written]
      rw [written_eq]
      refine readsOn_group mark body (fun _ new old => mark_fresh new old)
        (fun fuel enough => ?_) fun number inner read => ?_
      · exact passes_alternatives body false (some []) fit.1 body_fresh (by simp [Closes]) rfl
          enough
      · refine readsOn_quantifier (.group number inner) quantifier (keepsManner_row behind stops)
          (readsOn_row behind fit.2 behind_fresh stops fun more behind_read => ?_)
        have all_read := others _ ⟨number, inner, more, read, behind_read, rfl⟩
        rw [List.reverse_cons, List.append_assoc, List.singleton_append] at all_read
        exact all_read.mono order.symm.subset

end

/-! ## Whole patterns -/

private theorem lateProblem?_of_isRegular {pattern : Pattern} (regular : pattern.isRegular = true) :
    lateProblem? [] pattern = none := by
  induction pattern with
  | empty | one | anchor => rfl
  | sequence first second first_fine second_fine | either first second first_fine second_fine =>
      rw [isRegular, Bool.and_eq_true] at regular
      rw [lateProblem?, first_fine regular.1, second_fine regular.2, Option.or_none]
  | repeated manner body least most body_fine =>
      rw [isRegular, Bool.and_eq_true] at regular
      rw [lateProblem?, List.contains_nil, if_neg Bool.false_ne_true, body_fine regular.2]
  | group number body body_fine => exact body_fine regular
  | atomic | look | same | choose => cases regular

private theorem passes_check : Passes (At text known) check (Returns () (At text known)) := by
  intro cursor facing
  refine ⟨(), cursor, ?_, rfl, facing⟩
  simp [check, facing.dangling_eq, StateT.run_bind]
  rfl

private theorem passes_finish {pattern : Pattern} (regular : pattern.isRegular = true) :
    Passes (At [] known) (finish pattern) (Returns () (At [] known)) := by
  refine Passes.get_bind fun cursor facing => Passes.at_cursor ?_ facing
  have ended : cursor.rest = [] := facing.rest_eq.trans tokensOf_nil
  rw [facing.flags_eq, ended, facing.choices_eq, lateProblem?_of_isRegular regular]
  exact .returns ()

private theorem at_start {expression : Expression} :
    At (expression.written ++ []) [] (Cursor.start (expression.written ++ [])) := by
  rw [List.append_nil]
  have whole := isWhole_expression expression
  have start_eq : Cursor.start expression.written =
      ⟨0, tokensOf expression.written, false, 0, [], [], none, [], []⟩ := by
    rw [Cursor.start, whole.tokens_eq]
  rw [start_eq]
  exact ⟨whole, rfl, rfl, rfl, rfl, fun _ _ => rfl⟩

private theorem passes_whole {expression : Expression} (valid : expression.IsValid) :
    Passes (At (expression.written ++ []) []) whole fun pattern _ =>
      expression.StandsFor pattern := by
  have fresh : (expression.names ++ []).Nodup := by
    rw [List.append_nil]
    exact valid.names_nodup
  refine passes_check.andThen (passes_remaining.andThen ?_)
  refine (passes_alternatives expression true none valid.fits fresh (by simp [Closes]) rfl
    (by omega)).bind fun pattern => .of_and fun read => ?_
  have regular := (expression.renders_of_standsFor pattern read).regular
  exact (passes_finish regular).andThen (.pure fun _ _ => read)

end Parser

/-- The text of a valid expression is read as a pattern that the expression stands for. -/
theorem Expression.exists_parse {expression : Expression} (valid : expression.IsValid) :
    ∃ pattern, parse expression.written = .ok pattern ∧ expression.StandsFor pattern := by
  obtain ⟨pattern, cursor, whole_eq, read⟩ := Parser.passes_whole valid _ Parser.at_start
  rw [List.append_nil] at whole_eq
  refine ⟨pattern, ?_, read⟩
  rw [parse, whole_eq]
  rfl

end Pattern
end DiscoveryFiles
