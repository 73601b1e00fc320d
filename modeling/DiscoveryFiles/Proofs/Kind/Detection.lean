import DiscoveryFiles.Kind.Detection
import DiscoveryFiles.Proofs.Service.Validation
import DiscoveryFiles.Proofs.Text.Part
import Mathlib.Data.List.Sort

/-!
# Detection by the longest name

Three rules tell the kind of a file by its name: it is a canonical name, it ends in one behind a
hyphen, or it holds one.  They come to the last one alone, where the longest of the canonical names
that are held decides.
-/

namespace DiscoveryFiles
namespace Kind

/-- Whether a kind goes before another one: its canonical name is longer, or it is as long and the
kind comes no later among all kinds. -/
def GoesBefore (kind other : Kind) : Prop :=
  other.fileName.length < kind.fileName.length ∨
    other.fileName.length = kind.fileName.length ∧ all.idxOf kind ≤ all.idxOf other

theorem GoesBefore.refl (kind : Kind) : kind.GoesBefore kind :=
  .inr ⟨rfl, Nat.le_refl _⟩

private theorem GoesBefore.antisymm {kind other : Kind} (before : kind.GoesBefore other)
    (behind : other.GoesBefore kind) : kind = other := by
  have same_index : all.idxOf kind = all.idxOf other := by
    rcases before with longer | ⟨same, above⟩ <;> rcases behind with shorter | ⟨_, below⟩ <;> omega
  exact (List.idxOf_inj (mem_all kind)).mp same_index

/-! ## The order of the search -/

section Order

private theorem longer_trans (first second third : Kind)
    (above : decide (second.fileName.length ≤ first.fileName.length) = true)
    (below : decide (third.fileName.length ≤ second.fileName.length) = true) :
    decide (third.fileName.length ≤ first.fileName.length) = true := by
  simp only [decide_eq_true_eq] at above below ⊢
  exact below.trans above

private theorem longer_total (first second : Kind) :
    (decide (second.fileName.length ≤ first.fileName.length) ||
      decide (first.fileName.length ≤ second.fileName.length)) = true := by
  simp only [Bool.or_eq_true, decide_eq_true_eq]
  exact Nat.le_total _ _

private theorem longestFirst_perm : longestFirst.Perm all :=
  List.mergeSort_perm all _

/-- Among kinds whose names have one length the order of all kinds is kept. -/
theorem filter_longestFirst (length : Nat) :
    longestFirst.filter (·.fileName.length = length) =
      all.filter (·.fileName.length = length) := by
  have level : (all.filter (·.fileName.length = length)).Pairwise fun first second =>
      decide (second.fileName.length ≤ first.fileName.length) = true := by
    refine List.pairwise_of_forall_mem_list fun first member second other => ?_
    have first_length := of_decide_eq_true (List.mem_filter.mp member).2
    have second_length := of_decide_eq_true (List.mem_filter.mp other).2
    simp [first_length, second_length]
  have kept : (all.filter (·.fileName.length = length)).Sublist longestFirst :=
    List.sublist_mergeSort longer_trans longer_total level List.filter_sublist
  have within := kept.filter (·.fileName.length = length)
  rw [List.filter_filter] at within
  simp only [Bool.and_self] at within
  have as_long := (longestFirst_perm.filter (·.fileName.length = length)).length_eq
  exact (within.eq_of_length_le as_long.le).symm

private theorem pairwise_longestFirst : longestFirst.Pairwise GoesBefore := by
  have by_length : longestFirst.Pairwise fun kind other =>
      decide (other.fileName.length ≤ kind.fileName.length) = true :=
    List.pairwise_mergeSort longer_trans longer_total all
  have in_order : all.Pairwise fun kind other => all.idxOf kind ≤ all.idxOf other := by decide
  rw [List.pairwise_iff_forall_sublist] at by_length in_order ⊢
  intro kind other pair
  rcases Nat.lt_or_eq_of_le (of_decide_eq_true (by_length pair)) with shorter | same
  · exact .inl shorter
  · -- Two names of one length stand as they do among all kinds.
    have level := pair.filter (·.fileName.length = kind.fileName.length)
    rw [filter_longestFirst] at level
    simp only [same, decide_true, List.filter_cons_of_pos, List.filter_nil] at level
    exact .inr ⟨same, in_order (level.trans List.filter_sublist)⟩

end Order

section Search

variable {condition : Kind → Bool} {kind other found : Kind}

private theorem goesBefore_of_find?_longestFirst
    (found_eq : longestFirst.find? condition = some found) (meets : condition other = true) :
    found.GoesBefore other := by
  obtain ⟨-, before, behind, split_eq, refused⟩ := List.find?_eq_some_iff_append.mp found_eq
  have member : other ∈ before ++ found :: behind :=
    split_eq ▸ longestFirst_perm.mem_iff.mpr (mem_all other)
  rcases List.mem_append.mp member with early | late
  · have unmet := refused other early
    simp [meets] at unmet
  · rcases List.mem_cons.mp late with rfl | later
    · exact .refl _
    · have sorted := split_eq ▸ pairwise_longestFirst
      exact (List.pairwise_cons.mp (List.pairwise_append.mp sorted).2.1).1 other later

/-- The search finds the kind that meets a condition and goes before all others that do. -/
theorem find?_longestFirst_eq_some_iff :
    longestFirst.find? condition = some kind ↔
      condition kind = true ∧ ∀ other, condition other = true → kind.GoesBefore other := by
  constructor
  · intro found_eq
    exact ⟨List.find?_some found_eq, fun _ => goesBefore_of_find?_longestFirst found_eq⟩
  · rintro ⟨meets, first⟩
    cases found_eq : longestFirst.find? condition with
    | none =>
        have unmet := List.find?_eq_none.mp found_eq kind
          (longestFirst_perm.mem_iff.mpr (mem_all kind))
        exact absurd meets unmet
    | some found =>
        have before := goesBefore_of_find?_longestFirst found_eq meets
        exact congrArg some (before.antisymm (first found (List.find?_some found_eq)))

private theorem find?_longestFirst_eq_none_iff :
    longestFirst.find? condition = none ↔ ∀ kind, condition kind = false := by
  simp only [List.find?_eq_none, longestFirst_perm.mem_iff, mem_all, true_imp_iff,
    Bool.not_eq_true]

end Search

/-! ## The rules -/

private theorem fileName_injective {kind other : Kind} (same : kind.fileName = other.fileName) :
    kind = other := by
  have found : all.find? (·.fileName = kind.fileName) = some kind := by cases kind <;> decide
  have other_found : all.find? (·.fileName = other.fileName) = some other := by
    cases other <;> decide
  rw [same, other_found] at found
  exact (Option.some.inj found).symm

theorem occursIn_iff {kind : Kind} {base : Text} :
    kind.occursIn base = true ↔ kind.fileName.toList <:+: base := by
  rw [occursIn, Bool.or_eq_true, Text.ends_iff, Text.holds_iff, String.toList_append]
  exact or_iff_right_of_imp fun last => (List.suffix_append _ _).isInfix.trans last.isInfix

/-- A canonical name goes before all canonical names that it holds. -/
theorem goesBefore_of_infix_fileName {kind other : Kind}
    (inside : other.fileName.toList <:+: kind.fileName.toList) : kind.GoesBefore other := by
  rcases Nat.lt_or_eq_of_le inside.length_le with shorter | same
  · exact .inl (by rwa [String.length_toList, String.length_toList] at shorter)
  · obtain rfl := fileName_injective (String.toList_inj.mp (inside.eq_of_length same))
    exact .refl _

/-- Neither the rule for canonical names nor that for endings makes a difference. -/
theorem ofBaseName?_eq_find? (base : Text) :
    ofBaseName? base = longestFirst.find? fun kind => base.holds kind.fileName.toList := by
  have same_rule : (fun kind : Kind => kind.occursIn base) =
      fun kind => base.holds kind.fileName.toList := by
    funext kind
    rw [Bool.eq_iff_iff, occursIn_iff, Text.holds_iff]
  rw [ofBaseName?, same_rule]
  split
  next kind exact_eq =>
    have named := List.find?_some exact_eq
    obtain rfl := of_decide_eq_true named
    refine (find?_longestFirst_eq_some_iff.mpr ⟨?_, fun other held => ?_⟩).symm
    · exact Text.holds_iff.mpr List.infix_rfl
    · exact goesBefore_of_infix_fileName (Text.holds_iff.mp held)
  · rfl

private theorem ofBaseName?_eq_some_iff {base : Text} {kind : Kind} :
    ofBaseName? base = some kind ↔
      kind.fileName.toList <:+: base ∧
        ∀ other : Kind, other.fileName.toList <:+: base → kind.GoesBefore other := by
  simp only [ofBaseName?_eq_find?, find?_longestFirst_eq_some_iff, Text.holds_iff]

private theorem ofBaseName?_eq_none_iff {base : Text} :
    ofBaseName? base = none ↔ ∀ kind : Kind, ¬ kind.fileName.toList <:+: base := by
  simp only [ofBaseName?_eq_find?, find?_longestFirst_eq_none_iff, ← Bool.not_eq_true,
    Text.holds_iff]

open Service

/-- Detection finds the longest canonical name in the last name of a path, and of several that are
as long the one whose kind comes first; the rules for canonical names and for endings change
nothing.  A file for which no type is given is checked as the detected kind and its result has the
tag of the kind; a file without a detected kind has one error and no warnings. -/
theorem detect?_longest (tree : FileTree) (state : ServiceState) (file : String)
    (content : Text) :
    let base := (Path.ofString file).lastName
    (detect? file = none ↔ ∀ kind : Kind, ¬ kind.fileName.toList <:+: base) ∧
    (∀ kind, detect? file = some kind ↔
      kind.fileName.toList <:+: base ∧
        ∀ other : Kind, other.fileName.toList <:+: base → kind.GoesBefore other) ∧
    (detect? file = longestFirst.find? fun kind => base.holds kind.fileName.toList) ∧
    ∀ given, given = none ∨ given = some "" →
      (detect? file = none →
        ∃ issue, answer (validateContent tree file content given) state =
          .ok ⟨file, "unknown", ⟨[issue], []⟩⟩) ∧
      ∀ kind, detect? file = some kind →
        answer (validateContent tree file content given) state =
          (answer (findingsFor tree content kind) state).map (⟨file, kind.tag, ·⟩) := by
  intro base
  refine ⟨ofBaseName?_eq_none_iff, fun _ => ofBaseName?_eq_some_iff, ofBaseName?_eq_find? base,
    fun given absent => ?_⟩
  have tag_eq : tagFor? file given = (detect? file).map tag := by
    rcases absent with rfl | rfl <;> rfl
  refine ⟨fun undetected_eq => ?_, fun kind detected_eq => ?_⟩
  · rw [answer_validateContent, tag_eq, undetected_eq]
    exact ⟨_, rfl⟩
  · rw [answer_validateContent, tag_eq, detected_eq]
    simp only [Option.map_some, findingsForTag, ofTag?_tag]

end Kind
end DiscoveryFiles
