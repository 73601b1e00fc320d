import DiscoveryFiles.Proofs.Check.Sections

/-!
# The order of sections

An interaction policy and the names of an organisation may have their sections in any order.
-/

namespace DiscoveryFiles
namespace Check

open Text

/-- Sections in another order have the same lines in all. -/
theorem IsOutline.lines_perm {lines preamble : List Text} {blocks others : List Block}
    (outline : IsOutline lines preamble blocks) (reordered : others.Perm blocks) :
    (preamble ++ others.flatMap Block.lines).Perm lines := by
  rw [outline.lines_eq]
  exact (reordered.flatMap_right Block.lines).append_left preamble

/-- Sections in another order have the same lines under each name, up to order. -/
theorem alikeSections_of_perm {first second : Text} {preamble : List Text}
    {blocks others : List Block} (outline : IsOutline first.lines preamble blocks)
    (other : IsOutline second.lines preamble others) (reordered : others.Perm blocks) :
    AlikeSections second first := by
  have lines_perm : second.lines.Perm first.lines := by
    rw [other.lines_eq]
    exact outline.lines_perm reordered
  have named_perm (name : String) :
      (sectionLines name second.lines).Perm (sectionLines name first.lines) := by
    rw [sectionLines_of_isOutline outline, sectionLines_of_isOutline other]
    exact reordered.flatMap_right (Block.linesFor name)
  constructor
  · rw [isBlank_eq_all_lines, isBlank_eq_all_lines, lines_perm.all_eq]
  · exact fun name => lines_perm.any_eq
  · exact fun name condition _ => (named_perm name).any_eq

/-- A content is a preamble and sections.  However they are cut, and whatever the order in which
the sections are joined again, the findings for a policy and for names are the same. -/
theorem findings_of_reordered (content : Text) :
    (∃ preamble blocks, IsOutline content.lines preamble blocks) ∧
      ∀ (preamble : List Text) (blocks others : List Block),
        IsOutline content.lines preamble blocks → others.Perm blocks →
        let other := join ['\n'] (preamble ++ others.flatMap Block.lines)
        aiTxt other = aiTxt content ∧ brandTxt other = brandTxt content := by
  refine ⟨exists_outline content.lines, fun preamble blocks others outline reordered => ?_⟩
  intro other
  have other_outline : IsOutline other.lines preamble others :=
    ⟨outline.plain, lines_join_of_perm (outline.lines_perm reordered)⟩
  have alike := alikeSections_of_perm outline other_outline reordered
  exact ⟨alike.aiTxt_eq, alike.brandTxt_eq⟩

/-- The sections of a small policy: an identity in two sections around an unknown section. -/
def scatteredBlocks : List Block :=
  [⟨" [Permissions]".toList, ["- read".toList], by decide, by decide⟩,
    ⟨"[IDENTITY]".toList, ["name: x".toList], by decide, by decide⟩,
    ⟨"[other]".toList, ["- no".toList], by decide, by decide⟩,
    ⟨"[identity]\r".toList, ["url: y".toList, []], by decide, by decide⟩]

/-- A small policy has the same findings with its sections turned round. -/
theorem findings_of_scatteredBlocks :
    let content := join ['\n'] ("policy".toList :: scatteredBlocks.flatMap Block.lines)
    let other := join ['\n'] ("policy".toList :: scatteredBlocks.reverse.flatMap Block.lines)
    IsOutline content.lines ["policy".toList] scatteredBlocks ∧
      scatteredBlocks.reverse.Perm scatteredBlocks ∧
      aiTxt other = aiTxt content ∧ brandTxt other = brandTxt content := by
  intro content other
  have outline : IsOutline content.lines ["policy".toList] scatteredBlocks :=
    ⟨by decide, by decide +kernel⟩
  have reordered := List.reverse_perm scatteredBlocks
  exact ⟨outline, reordered,
    (findings_of_reordered content).2 ["policy".toList] scatteredBlocks _ outline reordered⟩

end Check
end DiscoveryFiles
