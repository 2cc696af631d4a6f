import Mathlib.Data.List.Infix
import Mathlib.Order.Bounds.Basic

/-!
# Longest common subsequences

The length of a longest common subsequence, by its recurrence.  What two lists have in common can be
counted from both ends, and what their parts have in common adds up to no more.
-/

namespace Sections

variable {α : Type} [DecidableEq α]

def commonLength : List α → List α → Nat
  | [], _ => 0
  | _, [] => 0
  | a :: as, b :: bs =>
    if a = b then commonLength as bs + 1
    else max (commonLength as (b :: bs)) (commonLength (a :: as) bs)
termination_by as bs => as.length + bs.length

variable {as bs as' bs' common : List α} {a b : α}

@[simp] theorem commonLength_nil_left (bs : List α) : commonLength [] bs = 0 := by
  rw [commonLength]

@[simp] theorem commonLength_nil_right (as : List α) : commonLength as [] = 0 := by
  cases as <;> simp [commonLength]

theorem commonLength_cons_self (a : α) (as bs : List α) :
    commonLength (a :: as) (a :: bs) = commonLength as bs + 1 := by
  rw [commonLength, if_pos rfl]

theorem commonLength_cons_of_ne (hne : a ≠ b) (as bs : List α) :
    commonLength (a :: as) (b :: bs) =
      max (commonLength as (b :: bs)) (commonLength (a :: as) bs) := by
  rw [commonLength, if_neg hne]

theorem length_le_commonLength (hleft : common.Sublist as) (hright : common.Sublist bs) :
    common.length ≤ commonLength as bs := by
  fun_induction commonLength as bs generalizing common with
  | case1 bs => simp [List.sublist_nil.mp hleft]
  | case2 as => simp [List.sublist_nil.mp hright]
  | case3 as b bs ih =>
      have hrest := ih hleft.tail hright.tail
      rw [List.length_tail] at hrest
      omega
  | case4 a as b bs hne ihleft ihright =>
      rcases List.sublist_cons_iff.mp hleft with hshort | ⟨rest, rfl, -⟩
      · exact (ihleft hshort hright).trans (Nat.le_max_left _ _)
      · rcases List.sublist_cons_iff.mp hright with hshort | ⟨rest', heq, -⟩
        · exact (ihright hleft hshort).trans (Nat.le_max_right _ _)
        · exact absurd (List.cons.inj heq).1 hne

theorem exists_common (as bs : List α) :
    ∃ common : List α, common.Sublist as ∧ common.Sublist bs ∧
      common.length = commonLength as bs := by
  fun_induction commonLength as bs with
  | case1 bs => exact ⟨[], .refl _, List.nil_sublist _, rfl⟩
  | case2 as => exact ⟨[], List.nil_sublist _, .refl _, rfl⟩
  | case3 as b bs ih =>
      obtain ⟨common, hleft, hright, hlength⟩ := ih
      exact ⟨b :: common, hleft.cons_cons b, hright.cons_cons b, by rw [List.length_cons, hlength]⟩
  | case4 a as b bs hne ihleft ihright =>
      rcases Nat.le_total (commonLength as (b :: bs)) (commonLength (a :: as) bs) with hle | hle
      · obtain ⟨common, hleft, hright, hlength⟩ := ihright
        exact ⟨common, hleft, hright.cons b, by rw [hlength, Nat.max_eq_right hle]⟩
      · obtain ⟨common, hleft, hright, hlength⟩ := ihleft
        exact ⟨common, hleft.cons a, hright, by rw [hlength, Nat.max_eq_left hle]⟩

theorem isGreatest_commonLength (as bs : List α) :
    IsGreatest {length | ∃ common : List α, common.Sublist as ∧ common.Sublist bs ∧
      common.length = length} (commonLength as bs) := by
  refine ⟨exists_common as bs, ?_⟩
  rintro _ ⟨common, hleft, hright, rfl⟩
  exact length_le_commonLength hleft hright

/-! ## Parts of lists -/

theorem commonLength_mono (hleft : as.Sublist as') (hright : bs.Sublist bs') :
    commonLength as bs ≤ commonLength as' bs' := by
  obtain ⟨common, hcommon, hcommon', hlength⟩ := exists_common as bs
  rw [← hlength]
  exact length_le_commonLength (hcommon.trans hleft) (hcommon'.trans hright)

theorem commonLength_append_le (as bs as' bs' : List α) :
    commonLength as bs + commonLength as' bs' ≤ commonLength (as ++ as') (bs ++ bs') := by
  obtain ⟨common, hleft, hright, hlength⟩ := exists_common as bs
  obtain ⟨common', hleft', hright', hlength'⟩ := exists_common as' bs'
  rw [← hlength, ← hlength', ← List.length_append]
  exact length_le_commonLength (hleft.append hleft') (hright.append hright')

theorem commonLength_take_add_drop_le (as bs : List α) (i j : Nat) :
    commonLength (as.take i) (bs.take j) + commonLength (as.drop i) (bs.drop j) ≤
      commonLength as bs := by
  have happend := commonLength_append_le (as.take i) (bs.take j) (as.drop i) (bs.drop j)
  rwa [List.take_append_drop, List.take_append_drop] at happend

theorem commonLength_le_left (as bs : List α) : commonLength as bs ≤ as.length := by
  obtain ⟨common, hleft, -, hlength⟩ := exists_common as bs
  exact hlength ▸ hleft.length_le

theorem commonLength_le_right (as bs : List α) : commonLength as bs ≤ bs.length := by
  obtain ⟨common, -, hright, hlength⟩ := exists_common as bs
  exact hlength ▸ hright.length_le

@[simp] theorem commonLength_self (as : List α) : commonLength as as = as.length :=
  (commonLength_le_left as as).antisymm (length_le_commonLength (.refl as) (.refl as))

theorem eq_of_length_le_commonLength (hleft : as.length ≤ commonLength as bs)
    (hright : bs.length ≤ commonLength as bs) : as = bs := by
  obtain ⟨common, hcommon, hcommon', hlength⟩ := exists_common as bs
  rw [← hcommon.eq_of_length_le (hlength ▸ hleft), hcommon'.eq_of_length_le (hlength ▸ hright)]

theorem commonLength_cons_le (a b : α) (as bs : List α) :
    commonLength (a :: as) (b :: bs) ≤ commonLength as bs + 1 := by
  obtain ⟨common, hleft, hright, hlength⟩ := exists_common (a :: as) (b :: bs)
  have htail := length_le_commonLength hleft.tail hright.tail
  rw [List.length_tail] at htail
  simp only [List.tail_cons] at htail
  omega

theorem commonLength_append_left (front as bs : List α) :
    commonLength (front ++ as) (front ++ bs) = front.length + commonLength as bs := by
  induction front with
  | nil => simp
  | cons a front ih =>
      rw [List.cons_append, List.cons_append, commonLength_cons_self, ih, List.length_cons]
      omega

/-! ## From the other end -/

theorem commonLength_reverse (as bs : List α) :
    commonLength as.reverse bs.reverse = commonLength as bs := by
  have hle (as bs : List α) : commonLength as bs ≤ commonLength as.reverse bs.reverse := by
    obtain ⟨common, hleft, hright, hlength⟩ := exists_common as bs
    rw [← hlength, ← List.length_reverse]
    exact length_le_commonLength hleft.reverse hright.reverse
  refine Nat.le_antisymm ?_ (hle as bs)
  simpa using hle as.reverse bs.reverse

theorem commonLength_append_right (as bs back : List α) :
    commonLength (as ++ back) (bs ++ back) = commonLength as bs + back.length := by
  rw [← commonLength_reverse, List.reverse_append, List.reverse_append, commonLength_append_left,
    commonLength_reverse, List.length_reverse, Nat.add_comm]

theorem commonLength_concat_self (as bs : List α) (a : α) :
    commonLength (as ++ [a]) (bs ++ [a]) = commonLength as bs + 1 :=
  commonLength_append_right as bs [a]

theorem commonLength_concat_le (as bs : List α) (a b : α) :
    commonLength (as ++ [a]) (bs ++ [b]) ≤ commonLength as bs + 1 := by
  rw [← commonLength_reverse, List.reverse_append, List.reverse_append, ← commonLength_reverse as]
  exact commonLength_cons_le a b as.reverse bs.reverse

theorem commonLength_concat_of_ne (hne : a ≠ b) (as bs : List α) :
    commonLength (as ++ [a]) (bs ++ [b]) =
      max (commonLength as (bs ++ [b])) (commonLength (as ++ [a]) bs) := by
  rw [← commonLength_reverse, ← commonLength_reverse as (bs ++ [b]),
    ← commonLength_reverse (as ++ [a]) bs, List.reverse_append, List.reverse_append]
  exact commonLength_cons_of_ne hne as.reverse bs.reverse

end Sections
