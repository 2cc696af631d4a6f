import Sections.Proofs.Diff.Meeting
import Sections.Proofs.Diff.Script

/-!
# Divided scripts are shortest

What two lists share at their ends is kept, and the rest is split without loss.  So the script keeps
as many items as the lists have in common.
-/

namespace Sections

open EditScript

variable {α : Type} [DecidableEq α] {as bs : List α}

theorem keepEnds_eq (as bs : List α) :
    ∃ front old new back, as = front ++ old ++ back ∧ bs = front ++ new ++ back ∧
      (old ≠ [] → new ≠ [] → old.head? ≠ new.head? ∧ old.getLast? ≠ new.getLast?) ∧
      ∀ between, keepEnds between as bs = run .keep front ++ between old new ++ run .keep back := by
  refine ⟨_, _, _, _, ?_, ?_, ?_, fun between => rfl⟩
  · rw [List.append_assoc, append_commonSuffix_left, commonPrefix_append_left]
  · rw [List.append_assoc, append_commonSuffix_right, commonPrefix_append_right]
  · intro hold hnew
    refine ⟨fun hheads => ?_, fun hlasts => hold (take_commonSuffix_eq_nil hlasts)⟩
    rw [List.head?_take, List.head?_take, if_neg, if_neg] at hheads
    · simp [drop_commonPrefix_eq_nil hheads] at hold
    · exact fun hzero => hnew (by rw [hzero, List.take_zero])
    · exact fun hzero => hold (by rw [hzero, List.take_zero])

theorem one_edit_of_lasts_ne (hlasts : as.getLast? ≠ bs.getLast?) :
    1 + 2 * commonLength as bs ≤ as.length + bs.length := by
  rcases List.eq_nil_or_concat as with rfl | ⟨as, a, rfl⟩
  · have hne : bs ≠ [] := fun hnil => hlasts (by rw [hnil])
    have hlength : 1 ≤ bs.length := List.length_pos_iff.mpr hne
    simpa using hlength
  rcases List.eq_nil_or_concat bs with rfl | ⟨bs, b, rfl⟩
  · simp
  have hne : a ≠ b := by simpa using hlasts
  simp only [List.concat_eq_append, List.length_append, List.length_singleton,
    commonLength_concat_of_ne hne]
  have hleft := commonLength_le_left as (bs ++ [b])
  have hleft' := commonLength_le_right as (bs ++ [b])
  have hright := commonLength_le_left (as ++ [a]) bs
  have hright' := commonLength_le_right (as ++ [a]) bs
  simp only [List.length_append, List.length_singleton] at hleft hleft' hright hright'
  omega

theorem two_edits_of_ends_ne (hleft : as ≠ []) (hright : bs ≠ []) (hheads : as.head? ≠ bs.head?)
    (hlasts : as.getLast? ≠ bs.getLast?) :
    2 + 2 * commonLength as bs ≤ as.length + bs.length := by
  obtain ⟨a, as, rfl⟩ := List.exists_cons_of_ne_nil hleft
  obtain ⟨b, bs, rfl⟩ := List.exists_cons_of_ne_nil hright
  have hne : a ≠ b := by simpa using hheads
  have hdelete : as.getLast? ≠ (b :: bs).getLast? := by
    cases as with
    | nil => simp [List.getLast?_cons]
    | cons c as => simpa using hlasts
  have hinsert : (a :: as).getLast? ≠ bs.getLast? := by
    cases bs with
    | nil => simp
    | cons c bs => simpa using hlasts
  have hdelete' := one_edit_of_lasts_ne hdelete
  have hinsert' := one_edit_of_lasts_ne hinsert
  rw [List.length_cons] at hdelete' hinsert'
  rw [commonLength_cons_of_ne hne, List.length_cons, List.length_cons]
  omega

theorem edits_divide {fuel : Nat} (hfuel : as.length + bs.length ≤ fuel) :
    Edits (divide fuel as bs) as bs (commonLength as bs) := by
  induction fuel generalizing as bs with
  | zero =>
      obtain ⟨rfl, rfl⟩ : as = [] ∧ bs = [] := by
        constructor <;> exact List.length_eq_zero_iff.mp (by omega)
      rw [divide, commonLength_nil_left]
      exact edits_replaceAll [] []
  | succ fuel ih =>
      obtain ⟨front, old, new, back, rfl, rfl, hends, hkeep⟩ := keepEnds_eq as bs
      simp only [List.length_append] at hfuel
      rw [divide, hkeep, commonLength_append_right, commonLength_append_left]
      refine ((edits_keep front).append ?_).append (edits_keep back)
      split
      · next hempty =>
          have hnone : commonLength old new = 0 := by
            rcases hempty with hold | hnew
            · rw [List.isEmpty_iff.mp hold, commonLength_nil_left]
            · rw [List.isEmpty_iff.mp hnew, commonLength_nil_right]
          rw [hnone]
          exact edits_replaceAll old new
      · next hfull =>
          obtain ⟨hold, hnew⟩ : old ≠ [] ∧ new ≠ [] := by simpa using hfull
          obtain ⟨hheads, hlasts⟩ := hends hold hnew
          obtain ⟨x, y, hpoint, hsplit⟩ := exists_splitPoint old new
          have hproper := hsplit.proper (two_edits_of_ends_ne hold hnew hheads hlasts)
          have hleft := hsplit.left
          have hright := hsplit.right
          have hfront : Edits (divide fuel (old.take x) (new.take y)) (old.take x) (new.take y)
              (commonLength (old.take x) (new.take y)) :=
            ih (by rw [List.length_take, List.length_take]; omega)
          have hback : Edits (divide fuel (old.drop x) (new.drop y)) (old.drop x) (new.drop y)
              (commonLength (old.drop x) (new.drop y)) :=
            ih (by rw [List.length_drop, List.length_drop]; omega)
          have hboth := hfront.append hback
          rw [List.take_append_drop, List.take_append_drop, hsplit.common] at hboth
          rw [hpoint]
          exact hboth

theorem edits_shortestScript (as bs : List α) :
    Edits (shortestScript as bs) as bs (commonLength as bs) :=
  edits_divide (Nat.le_refl _)

end Sections
