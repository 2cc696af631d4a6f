import Sections.Proofs.Diff.Common

/-!
# Points of the edit graph

A point of the edit graph of two lists is a place in each of them.  It is reached by a number of
edits if what stands before it can be turned into each other by as many deletions and insertions.
-/

namespace Sections

variable {α : Type}

def Matches (as bs : List α) (i j : Nat) : Prop := ∃ c, as[i]? = some c ∧ bs[j]? = some c

variable [DecidableEq α] {as bs : List α} {edits i j : Nat}

/--
Whether a point can be reached by so many deletions and insertions.  Past the end of a list
there are items that match nothing.
-/
def Reachable (as bs : List α) (edits i j : Nat) : Prop :=
  i + j ≤ edits + 2 * commonLength (as.take i) (bs.take j)

theorem commonLength_take_succ_of_matches (hmatch : Matches as bs i j) :
    commonLength (as.take (i + 1)) (bs.take (j + 1)) =
      commonLength (as.take i) (bs.take j) + 1 := by
  obtain ⟨c, hleft, hright⟩ := hmatch
  rw [List.take_add_one, List.take_add_one, hleft, hright]
  exact commonLength_concat_self _ _ c

theorem commonLength_take_succ_of_not_matches (hmatch : ¬ Matches as bs i j) :
    commonLength (as.take (i + 1)) (bs.take (j + 1)) =
      max (commonLength (as.take i) (bs.take (j + 1)))
        (commonLength (as.take (i + 1)) (bs.take j)) := by
  have hleft := List.take_add_one (l := as) (i := i)
  have hright := List.take_add_one (l := bs) (i := j)
  cases ha : as[i]? with
  | none =>
      rw [ha, Option.toList_none, List.append_nil] at hleft
      rw [hleft]
      refine (Nat.max_eq_left (commonLength_mono (.refl _) ?_)).symm
      exact (List.take_prefix_take_left (Nat.le_succ j)).sublist
  | some a =>
      cases hb : bs[j]? with
      | none =>
          rw [hb, Option.toList_none, List.append_nil] at hright
          rw [hright]
          refine (Nat.max_eq_right (commonLength_mono ?_ (.refl _))).symm
          exact (List.take_prefix_take_left (Nat.le_succ i)).sublist
      | some b =>
          have hne : a ≠ b := fun heq => hmatch ⟨a, ha, heq ▸ hb⟩
          rw [hleft, hright, ha, hb]
          exact commonLength_concat_of_ne hne _ _

theorem commonLength_take_succ_le (as bs : List α) (i j : Nat) :
    commonLength (as.take (i + 1)) (bs.take (j + 1)) ≤
      commonLength (as.take i) (bs.take j) + 1 := by
  rw [List.take_add_one, List.take_add_one]
  cases as[i]? with
  | none =>
      cases bs[j]? with
      | none => simp
      | some b =>
          have hle := commonLength_mono (List.sublist_append_left (as.take i) [b])
            (.refl (bs.take j ++ [b]))
          rw [commonLength_concat_self] at hle
          simpa using hle
  | some a =>
      cases bs[j]? with
      | none =>
          have hle := commonLength_mono (.refl (as.take i ++ [a]))
            (List.sublist_append_left (bs.take j) [a])
          rw [commonLength_concat_self] at hle
          simpa using hle
      | some b => exact commonLength_concat_le _ _ a b

theorem commonLength_take_le (as bs : List α) (i j : Nat) :
    commonLength (as.take i) (bs.take j) ≤ commonLength as bs :=
  commonLength_mono (List.take_sublist i as) (List.take_sublist j bs)

theorem commonLength_take_le_left (as bs : List α) (i j : Nat) :
    commonLength (as.take i) (bs.take j) ≤ i :=
  (commonLength_le_left _ _).trans (List.length_take_le i as)

theorem commonLength_take_le_right (as bs : List α) (i j : Nat) :
    commonLength (as.take i) (bs.take j) ≤ j :=
  (commonLength_le_right _ _).trans (List.length_take_le j bs)

/-! ## Edges -/

namespace Reachable

theorem start (as bs : List α) (edits : Nat) : Reachable as bs edits 0 0 := Nat.zero_le _

theorem delete (hreach : Reachable as bs edits i j) : Reachable as bs (edits + 1) (i + 1) j := by
  have hle : commonLength (as.take i) (bs.take j) ≤ commonLength (as.take (i + 1)) (bs.take j) :=
    commonLength_mono (List.take_prefix_take_left (Nat.le_succ i)).sublist (.refl _)
  unfold Reachable at hreach ⊢
  omega

theorem insert (hreach : Reachable as bs edits i j) : Reachable as bs (edits + 1) i (j + 1) := by
  have hle : commonLength (as.take i) (bs.take j) ≤ commonLength (as.take i) (bs.take (j + 1)) :=
    commonLength_mono (.refl _) (List.take_prefix_take_left (Nat.le_succ j)).sublist
  unfold Reachable at hreach ⊢
  omega

theorem keep (hreach : Reachable as bs edits i j) (hmatch : Matches as bs i j) :
    Reachable as bs edits (i + 1) (j + 1) := by
  unfold Reachable at hreach ⊢
  rw [commonLength_take_succ_of_matches hmatch]
  omega

theorem back (hreach : Reachable as bs edits (i + 1) (j + 1)) : Reachable as bs edits i j := by
  have hle := commonLength_take_succ_le as bs i j
  unfold Reachable at hreach ⊢
  omega

theorem back_of_le {back : Nat} (hreach : Reachable as bs edits (i + back) (j + back)) :
    Reachable as bs edits i j := by
  induction back with
  | zero => exact hreach
  | succ back ih => exact ih hreach.back

theorem near_diagonal (hreach : Reachable as bs edits i j) : i ≤ j + edits ∧ j ≤ i + edits := by
  have hleft := commonLength_take_le_left as bs i j
  have hright := commonLength_take_le_right as bs i j
  unfold Reachable at hreach
  omega

theorem exists_edit (hreach : Reachable as bs edits i j) (hstart : ¬ (i = 0 ∧ j = 0))
    (hmatch : ∀ i' j', i = i' + 1 → j = j' + 1 → ¬ Matches as bs i' j') :
    ∃ fewer, edits = fewer + 1 ∧
      ((∃ i', i = i' + 1 ∧ Reachable as bs fewer i' j) ∨
        ∃ j', j = j' + 1 ∧ Reachable as bs fewer i j') := by
  unfold Reachable at hreach ⊢
  cases i with
  | zero =>
      cases j with
      | zero => exact absurd ⟨rfl, rfl⟩ hstart
      | succ j =>
          simp only [List.take_zero, commonLength_nil_left] at hreach ⊢
          exact ⟨edits - 1, by omega, .inr ⟨j, rfl, by omega⟩⟩
  | succ i =>
      cases j with
      | zero =>
          simp only [List.take_zero, commonLength_nil_right] at hreach ⊢
          exact ⟨edits - 1, by omega, .inl ⟨i, rfl, by omega⟩⟩
      | succ j =>
          rw [commonLength_take_succ_of_not_matches (hmatch i j rfl rfl)] at hreach
          have hdelete := commonLength_take_le_left as bs i (j + 1)
          have hdelete' := commonLength_take_le_right as bs i (j + 1)
          have hinsert := commonLength_take_le_left as bs (i + 1) j
          have hinsert' := commonLength_take_le_right as bs (i + 1) j
          refine ⟨edits - 1, by omega, ?_⟩
          rcases Nat.le_total (commonLength (as.take i) (bs.take (j + 1)))
            (commonLength (as.take (i + 1)) (bs.take j)) with hle | hle
          · exact .inr ⟨j, rfl, by omega⟩
          · exact .inl ⟨i, rfl, by omega⟩

end Reachable

/-! ## From both ends -/

variable {front back : Nat}

theorem reachable_reverse_iff (hi : i ≤ as.length) (hj : j ≤ bs.length) :
    Reachable as.reverse bs.reverse back (as.length - i) (bs.length - j) ↔
      as.length - i + (bs.length - j) ≤
        back + 2 * commonLength (as.drop i) (bs.drop j) := by
  rw [Reachable, List.take_reverse, List.take_reverse, commonLength_reverse,
    Nat.sub_sub_self hi, Nat.sub_sub_self hj]

theorem exists_reachable_split (as bs : List α) (front back : Nat)
    (hedits : as.length + bs.length = front + back + 2 * commonLength as bs) :
    ∃ i ≤ as.length, ∃ j ≤ bs.length, Reachable as bs front i j ∧
      as.length - i + (bs.length - j) ≤
        back + 2 * commonLength (as.drop i) (bs.drop j) := by
  induction as, bs using commonLength.induct generalizing front with
  | case1 bs =>
      simp only [commonLength_nil_left, List.length_nil] at hedits
      refine ⟨0, Nat.le_refl 0, front, by omega, ?_, ?_⟩
      · simp [Reachable]
      · simp only [List.length_nil]
        omega
  | case2 as =>
      simp only [commonLength_nil_right, List.length_nil] at hedits
      refine ⟨front, by omega, 0, Nat.le_refl 0, ?_, ?_⟩
      · simp [Reachable]
      · simp only [List.length_nil]
        omega
  | case3 as c bs ih =>
      rw [commonLength_cons_self, List.length_cons, List.length_cons] at hedits
      obtain ⟨i, hi, j, hj, hfront, hback⟩ := ih front (by omega)
      refine ⟨i + 1, Nat.succ_le_succ hi, j + 1, Nat.succ_le_succ hj, ?_, ?_⟩
      · unfold Reachable at hfront ⊢
        rw [List.take_succ_cons, List.take_succ_cons, commonLength_cons_self]
        omega
      · simpa using hback
  | case4 a as b bs hne ihleft ihright =>
      rw [commonLength_cons_of_ne hne, List.length_cons, List.length_cons] at hedits
      cases front with
      | zero =>
          refine ⟨0, Nat.zero_le _, 0, Nat.zero_le _, .start _ _ 0, ?_⟩
          rw [List.drop_zero, List.drop_zero, commonLength_cons_of_ne hne, List.length_cons,
            List.length_cons]
          omega
      | succ front =>
          rcases Nat.le_total (commonLength as (b :: bs)) (commonLength (a :: as) bs) with
            hle | hle
          · rw [Nat.max_eq_right hle] at hedits
            obtain ⟨i, hi, j, hj, hfront, hback⟩ := ihright front (by
              rw [List.length_cons]
              omega)
            refine ⟨i, hi, j + 1, Nat.succ_le_succ hj, ?_, by simpa using hback⟩
            have hmono := commonLength_mono (.refl ((a :: as).take i))
              (List.sublist_cons_self b (bs.take j))
            unfold Reachable at hfront ⊢
            rw [List.take_succ_cons]
            omega
          · rw [Nat.max_eq_left hle] at hedits
            obtain ⟨i, hi, j, hj, hfront, hback⟩ := ihleft front (by
              rw [List.length_cons]
              omega)
            refine ⟨i + 1, Nat.succ_le_succ hi, j, hj, ?_, by simpa using hback⟩
            have hmono := commonLength_mono (List.sublist_cons_self a (as.take i))
              (.refl ((b :: bs).take j))
            unfold Reachable at hfront ⊢
            rw [List.take_succ_cons]
            omega

theorem Reachable.within (hreach : Reachable as bs front i j)
    (hnear : ((i : Int) - j - ((as.length : Int) - bs.length)).natAbs ≤ back)
    (hfar : front + back + 2 * commonLength as bs ≤ as.length + bs.length) :
    i ≤ as.length ∧ j ≤ bs.length := by
  have hle := commonLength_take_le as bs i j
  unfold Reachable at hreach
  omega

theorem Reachable.meet (hi : i ≤ as.length) (hj : j ≤ bs.length)
    (hfront : Reachable as bs front i j)
    (hback : Reachable as.reverse bs.reverse back (as.length - i) (bs.length - j))
    (hfar : front + back + 2 * commonLength as bs ≤ as.length + bs.length) :
    as.length + bs.length = front + back + 2 * commonLength as bs ∧
      commonLength (as.take i) (bs.take j) + commonLength (as.drop i) (bs.drop j) =
        commonLength as bs := by
  have hle := commonLength_take_add_drop_le as bs i j
  rw [reachable_reverse_iff hi hj] at hback
  unfold Reachable at hfront
  omega

end Sections
