import Sections.Proofs.Diff.Compaction
import Sections.Proofs.Diff.Shortest
import Sections.Proofs.Diff.Steps

/-!
# Patches are shortest edit scripts

The patch of two texts shows a script between their lines, whatever these contain, and the changes
in it are as few as they can be.
-/

namespace Sections

open EditScript EditStep

variable (old new : String)

def patchSteps : List (EditStep (List Char)) :=
  ordered [] [] (lineScript (splitAll '\n' old.toList) (splitAll '\n' new.toList))

theorem edits_lineScript (old new : List (List Char)) :
    Edits (lineScript old new) old new (commonLength old new) :=
  (replaces_compact _).edits (edits_shortestScript old new)

theorem unifiedPatch_eq :
    unifiedPatch old new = .ofList (patchHeader ++ (patchSteps old new).flatMap render) := by
  rw [unifiedPatch, patchBody_eq_flatMap_render, patchSteps]

theorem source_patchSteps :
    selected (· != .insert) (patchSteps old new) = splitAll '\n' old.toList := by
  rw [patchSteps, selected_ordered rfl (by simp), ← source_eq_reading,
    (edits_lineScript _ _).source]
  rfl

theorem target_patchSteps :
    selected (· != .delete) (patchSteps old new) = splitAll '\n' new.toList := by
  rw [patchSteps, selected_ordered rfl (by simp), ← target_eq_reading,
    (edits_lineScript _ _).target]
  rfl

theorem length_kept_patchSteps :
    (selected (· == .keep) (patchSteps old new)).length =
      commonLength (splitAll '\n' old.toList) (splitAll '\n' new.toList) := by
  rw [patchSteps, selected_ordered rfl (by simp), ← kept_eq_reading]
  exact (edits_lineScript _ _).kept

theorem item_patchSteps {step : EditStep (List Char)} (hstep : step ∈ patchSteps old new) :
    '\n' ∉ step.item := by
  have hmem (reads : Action → Bool) (hreads : reads step.action) :
      step.item ∈ selected reads (patchSteps old new) :=
    List.mem_map_of_mem (List.mem_filter.mpr ⟨hstep, hreads⟩)
  cases haction : step.action with
  | keep | delete =>
      have hsource := hmem (· != .insert) (by simp [haction])
      rw [source_patchSteps, splitAll_eq_splitOn] at hsource
      exact notMem_of_mem_splitOn hsource
  | insert =>
      have htarget := hmem (· != .delete) (by simp [haction])
      rw [target_patchSteps, splitAll_eq_splitOn] at htarget
      exact notMem_of_mem_splitOn htarget

theorem changeCounts_unifiedPatch :
    changeCounts (unifiedPatch old new) =
      ((patchSteps old new).countP fun step => step.action == .delete,
        (patchSteps old new).countP fun step => step.action == .insert) := by
  rw [unifiedPatch_eq, changeCounts_render fun step hstep => item_patchSteps old new hstep]

/--
A patch is the header and a script between the lines of two texts.  Kept lines are not
shown, each other line stands after its sign in the order of the script, and between two kept lines
the deletions come first.  The numbers of changes are read off the patch whatever the lines contain.
-/
theorem unifiedPatch_is_edit_script :
    ∃ steps : List (EditStep (List Char)),
      selected (· != .insert) steps = splitAll '\n' old.toList ∧
        selected (· != .delete) steps = splitAll '\n' new.toList ∧
        DeletionsFirst steps ∧
        unifiedPatch old new = .ofList (patchHeader ++ steps.flatMap render) ∧
        changeCounts (unifiedPatch old new) =
          (steps.countP fun step => step.action == .delete,
            steps.countP fun step => step.action == .insert) :=
  ⟨patchSteps old new, source_patchSteps old new, target_patchSteps old new,
    deletionsFirst_ordered (edits_lineScript _ _).filled, unifiedPatch_eq old new,
    changeCounts_unifiedPatch old new⟩

theorem changeCounts_eq_length_sub :
    changeCounts (unifiedPatch old new) =
      ((splitAll '\n' old.toList).length -
          commonLength (splitAll '\n' old.toList) (splitAll '\n' new.toList),
        (splitAll '\n' new.toList).length -
          commonLength (splitAll '\n' old.toList) (splitAll '\n' new.toList)) := by
  obtain ⟨hsource, htarget⟩ := countP_changes (patchSteps old new)
  rw [changeCounts_unifiedPatch, ← length_kept_patchSteps, length_selected,
    ← congrArg List.length (source_patchSteps old new), length_selected,
    ← congrArg List.length (target_patchSteps old new), length_selected, hsource, htarget,
    Nat.add_sub_cancel_left, Nat.add_sub_cancel_left]

theorem unifiedPatch_eq_header_iff : unifiedPatch old new = .ofList patchHeader ↔ old = new := by
  have hcounts := changeCounts_eq_length_sub old new
  constructor
  · intro hheader
    have hnone : changeCounts (.ofList patchHeader) = (0, 0) := by
      have hrender := @changeCounts_render [] (by simp)
      simpa using hrender
    rw [hheader, hnone] at hcounts
    obtain ⟨hold, hnew⟩ := Prod.mk.inj hcounts
    have hlines := eq_of_length_le_commonLength (Nat.sub_eq_zero_iff_le.mp hold.symm)
      (Nat.sub_eq_zero_iff_le.mp hnew.symm)
    have htexts := congrArg (joinAll ['\n']) hlines
    rw [joinAll_splitAll, joinAll_splitAll] at htexts
    exact String.toList_inj.mp htexts
  · rintro rfl
    rw [commonLength_self, Nat.sub_self, changeCounts_unifiedPatch] at hcounts
    obtain ⟨hdelete, hinsert⟩ := Prod.mk.inj hcounts
    have hkept : (patchSteps old old).flatMap render = [] := by
      rw [List.flatMap_eq_nil_iff]
      intro step hstep
      have hdelete' := List.countP_eq_zero.mp hdelete step hstep
      have hinsert' := List.countP_eq_zero.mp hinsert step hstep
      obtain ⟨action, line⟩ := step
      cases action <;> simp_all [render]
    rw [unifiedPatch_eq, hkept, List.append_nil]

/--
The changes of a patch are as few as they can be: all lines but those of a longest common
subsequence.  So nothing follows the header exactly if the texts are the same.
-/
theorem unifiedPatch_is_minimal :
    ∃ common,
      IsGreatest {length | ∃ lines : List (List Char),
        lines.Sublist (splitAll '\n' old.toList) ∧ lines.Sublist (splitAll '\n' new.toList) ∧
          lines.length = length} common ∧
        changeCounts (unifiedPatch old new) =
          ((splitAll '\n' old.toList).length - common,
            (splitAll '\n' new.toList).length - common) ∧
        (unifiedPatch old new = .ofList patchHeader ↔ old = new) :=
  ⟨_, isGreatest_commonLength _ _, changeCounts_eq_length_sub old new,
    unifiedPatch_eq_header_iff old new⟩

end Sections
