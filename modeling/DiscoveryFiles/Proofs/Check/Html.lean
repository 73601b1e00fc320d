import DiscoveryFiles.Check.Html
import DiscoveryFiles.Proofs.Report.Finding
import DiscoveryFiles.Proofs.Text.Lowercase

/-!
# Elements of a web page

An element that is found in a page is found in every page that goes on with more text.
-/

namespace DiscoveryFiles
namespace Check

open Text

variable {text rest inner : Text} {words : String}

/-! ## Tags -/

private theorem behindWords?_append {letters : List Char}
    (found : behindWords? letters text = some rest)
    (more : Text) : behindWords? letters (text ++ more) = some (rest ++ more) := by
  induction letters generalizing text with
  | nil =>
      obtain rfl := Option.some.inj found
      rfl
  | cons letter letters induction =>
      cases text with
      | nil => cases found
      | cons c text =>
          rw [behindWords?] at found
          rw [List.cons_append, behindWords?]
          split at found
          next same => rw [if_pos same, induction found]
          · cases found

private theorem behind?_append (found : behind? words text = some rest) (more : Text) :
    behind? words (text ++ more) = some (rest ++ more) :=
  behindWords?_append found more

/-- A stretch that ends inside a text ends there in a longer text. -/
theorem takeWhile_append_of_stops {condition : Char → Bool}
    (stops : text.dropWhile condition ≠ []) (more : Text) :
    (text ++ more).takeWhile condition = text.takeWhile condition := by
  have whole := congrArg List.length (List.takeWhile_append_dropWhile (p := condition) (l := text))
  have behind := List.length_pos_of_ne_nil stops
  rw [List.length_append] at whole
  rw [List.takeWhile_append, if_neg (by omega)]

private theorem dropWhile_append_of_stops {condition : Char → Bool}
    (stops : text.dropWhile condition ≠ []) (more : Text) :
    (text ++ more).dropWhile condition = text.dropWhile condition ++ more := by
  rw [List.dropWhile_append, if_neg (by simpa using stops)]

private theorem tagEnd?_append (found : tagEnd? text = some (inner, rest)) (more : Text) :
    tagEnd? (text ++ more) = some (inner, rest ++ more) := by
  rw [tagEnd?] at found
  split at found
  next behind behind_eq =>
    have stops : text.dropWhile (· ≠ '>') ≠ [] := behind_eq ▸ List.cons_ne_nil _ _
    obtain ⟨rfl, rfl⟩ := Prod.mk.inj (Option.some.inj found)
    rw [tagEnd?, dropWhile_append_of_stops stops, takeWhile_append_of_stops stops, behind_eq]
    rfl
  · cases found

/-- A tag that starts a text starts every longer text. -/
theorem tag_append (found : (behind? words text).bind tagEnd? = some (inner, rest)) (more : Text) :
    (behind? words (text ++ more)).bind tagEnd? = some (inner, rest ++ more) := by
  obtain ⟨behind, behind_eq, ended⟩ := Option.bind_eq_some_iff.mp found
  rw [behind?_append behind_eq, Option.bind_some, tagEnd?_append ended]

/-! ## Elements -/

private theorem isSome_htmlTag?_append (found : (htmlTag? text).isSome = true) (more : Text) :
    (htmlTag? (text ++ more)).isSome = true := by
  induction text with
  | nil => cases found
  | cons c text induction =>
      rw [htmlTag?] at found
      rw [List.cons_append, htmlTag?]
      cases tag_eq : (behind? "<html" (c :: text)).bind tagEnd? with
      | some tag =>
          have longer : (behind? "<html" (c :: (text ++ more))).bind tagEnd? =
              some (tag.1, tag.2 ++ more) := tag_append tag_eq more
          rw [longer]
          rfl
      | none =>
          rw [tag_eq] at found
          split
          · rfl
          · exact induction found

private theorem startsTitle_append (found : startsTitle text = true) (more : Text) :
    startsTitle (text ++ more) = true := by
  rw [startsTitle] at found
  split at found
  · cases found
  next rest behind_eq =>
    obtain ⟨filled, closed⟩ := Bool.and_eq_true_iff.mp found
    obtain ⟨behind, closed_eq⟩ := Option.isSome_iff_exists.mp closed
    -- The closing tag does not fit into an empty rest.
    have stops : rest.dropWhile (· ≠ '<') ≠ [] := by
      intro nothing
      rw [nothing] at closed_eq
      cases closed_eq
    rw [startsTitle, behind?_append behind_eq]
    simp only [takeWhile_append_of_stops stops, dropWhile_append_of_stops stops,
      behind?_append closed_eq, filled, Option.isSome_some, Bool.and_self]

private theorem startsHeading_append (found : startsHeading text = true) (more : Text) :
    startsHeading (text ++ more) = true := by
  rw [startsHeading] at found
  split at found
  next inner c rest tag_eq =>
    rw [startsHeading, tag_append tag_eq]
    exact found
  · cases found

private theorem fromSomewhere_append {condition : Text → Bool} {more : Text}
    (kept : ∀ rest : Text, condition rest = true → condition (rest ++ more) = true)
    (found : text.fromSomewhere condition = true) :
    (text ++ more).fromSomewhere condition = true := by
  obtain ⟨rest, behind, here⟩ := fromSomewhere_iff.mp found
  obtain ⟨front, rfl⟩ := behind
  exact fromSomewhere_iff.mpr ⟨rest ++ more, ⟨front, by rw [List.append_assoc]⟩, kept rest here⟩

/-- Words in lower case at the start of a trimmed text stay there if text is added behind it. -/
theorem begins_lower_trim_append (free : SigmaFree words.toList)
    (begun : text.trim.lower.begins words = true) (more : Text) :
    (text ++ more).trim.lower.begins words = true := by
  rw [begins_iff, prefix_lower_iff free] at begun ⊢
  obtain ⟨after, trim_eq⟩ := trim_prefix text more
  rw [← trim_eq, lowerEach_append]
  exact begun.trans (List.prefix_append _ _)

/-! ## Pages without errors -/

/-- The elements that a web page must have. -/
structure IsPage (content : Text) : Prop where
  /-- The page begins with a declaration of its type. -/
  declared : content.trim.lower.begins "<!doctype html" = true
  /-- There is a page element. -/
  opened : (htmlTag? content).isSome = true
  /-- There is a title that is not empty. -/
  titled : content.fromSomewhere startsTitle = true
  /-- There is a first-level heading. -/
  headed : content.fromSomewhere startsHeading = true

theorem errors_llmsHtml_eq_nil_iff {content : Text} :
    (llmsHtml content).errors = [] ↔ IsPage content := by
  rw [llmsHtml]
  cases tag_eq : htmlTag? content with
  | none =>
      constructor
      · simp
      · intro page
        have opened := page.opened
        rw [tag_eq] at opened
        cases opened
  | some tag =>
      simp only [Findings.errors_append, List.append_eq_nil_iff,
        Findings.errors_require_eq_nil_iff, Findings.errors_error, Findings.errors_warning,
        List.cons_ne_nil, or_false, or_true, and_true]
      constructor
      · rintro ⟨⟨declared, titled⟩, headed⟩
        exact ⟨declared, Option.isSome_of_eq_some tag_eq, titled, headed⟩
      · intro page
        exact ⟨⟨page.declared, page.titled⟩, page.headed⟩

theorem IsPage.append {content : Text} (page : IsPage content) (more : Text) :
    IsPage (content ++ more) where
  declared := begins_lower_trim_append (by decide) page.declared more
  opened := isSome_htmlTag?_append page.opened more
  titled := fromSomewhere_append (fun _ found => startsTitle_append found more) page.titled
  headed := fromSomewhere_append (fun _ found => startsHeading_append found more) page.headed

end Check
end DiscoveryFiles
