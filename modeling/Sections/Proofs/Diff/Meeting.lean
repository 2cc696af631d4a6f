import Sections.Proofs.Diff.Reach

/-!
# Where paths from both ends meet

The search tries ever more edits from both ends.  It ends at a point that splits the lists without
loss of common items, and it has enough rounds to get there.
-/

namespace Sections

variable {α : Type} {as bs : List α} {edits front back x y place most : Nat} {diagonal : Int}
  {limit : Option Nat} {reach forward backward opposite : Reach}

/-- Whether a place on a diagonal is at or past the one reached from the other end. -/
def Meets (as bs : List α) (limit : Option Nat) (opposite : Reach) (diagonal : Int) (place : Nat) :
    Prop :=
  ∃ edits ∈ limit, (diagonal - ((as.length : Int) - bs.length)).natAbs ≤ edits ∧
    as.length ≤ place + opposite.get (-(diagonal - ((as.length : Int) - bs.length)))

theorem meets_some_iff :
    Meets as bs (some edits) opposite diagonal place ↔
      (diagonal - ((as.length : Int) - bs.length)).natAbs ≤ edits ∧
        as.length ≤ place + opposite.get (-(diagonal - ((as.length : Int) - bs.length))) := by
  simp [Meets]

theorem any_iff_meets :
    (limit.any fun edits =>
      decide ((diagonal - ((as.length : Int) - bs.length)).natAbs ≤ edits) &&
        decide (as.length ≤ place + opposite.get (-(diagonal - ((as.length : Int) - bs.length))))) =
      true ↔ Meets as bs limit opposite diagonal place := by
  cases limit <;> simp [Meets]

theorem matches_reverse {i j : Nat} (hmatch : Matches as bs i j) :
    Matches as.reverse bs.reverse (as.length - 1 - i) (bs.length - 1 - j) := by
  obtain ⟨c, hleft, hright⟩ := hmatch
  have hi := (List.getElem?_eq_some_iff.mp hleft).1
  have hj := (List.getElem?_eq_some_iff.mp hright).1
  refine ⟨c, ?_, ?_⟩
  · rw [List.getElem?_reverse (by omega), ← hleft]
    congr 1
    omega
  · rw [List.getElem?_reverse (by omega), ← hright]
    congr 1
    omega

variable [DecidableEq α]

/--
What comes of a round.  All paths are extended and none of them meets a path from the
other end, or one of them does with the equal items that it passes last.
-/
inductive Round (as bs : List α) (most edits : Nat) (limit : Option Nat) (opposite : Reach) :
    Reach × Option (Nat × Nat × Nat) → Prop
  | apart (reach : Reach) (hwide : reach.Wide most) (hafter : reach.After as bs (edits + 1))
      (hapart : ∀ diagonal ∈ Reach.diagonals edits,
        ¬ Meets as bs limit opposite diagonal (reach.get diagonal)) :
      Round as bs most edits limit opposite (reach, none)
  | met (reach : Reach) (x y passed : Nat) (hdiagonal : (x : Int) - y ∈ Reach.diagonals edits)
      (hreach : Reachable as bs edits x y)
      (hsnake : ∀ step < passed, Matches as bs (x + step) (y + step))
      (hmeets : Meets as bs limit opposite ((x : Int) - y) (x + passed)) :
      Round as bs most edits limit opposite (reach, some (x, y, passed))

theorem round_extendPaths_of_rest {rest : List Int} (hwide : reach.Wide most)
    (hedits : edits < most)
    (hrest : ∀ diagonal ∈ rest, diagonal ∈ Reach.diagonals edits ∧
      Entrance as bs edits diagonal (reach.enter edits diagonal))
    (hdone : ∀ diagonal ∈ Reach.diagonals edits, diagonal ∈ rest ∨
      Furthest as bs edits diagonal (reach.get diagonal) ∧
        ¬ Meets as bs limit opposite diagonal (reach.get diagonal)) :
    Round as bs most edits limit opposite
      (extendPaths as.toArray bs.toArray edits limit opposite rest reach) := by
  induction rest generalizing reach with
  | nil =>
      have hall (diagonal : Int) (hdiagonal : diagonal ∈ Reach.diagonals edits) :=
        (hdone diagonal hdiagonal).resolve_left List.not_mem_nil
      exact .apart reach hwide (fun diagonal hdiagonal => (hall diagonal hdiagonal).1)
        fun diagonal hdiagonal => (hall diagonal hdiagonal).2
  | cons diagonal rest ih =>
      obtain ⟨hdiagonal, hentrance⟩ := hrest diagonal List.mem_cons_self
      obtain ⟨y, hy, hreach⟩ := hentrance.reach
      have hfurthest := hentrance.furthest hy
      rw [extendPaths]
      generalize reach.enter edits diagonal = x at hentrance hy hreach hfurthest
      have hcolumn : (x : Int) - diagonal = y := by omega
      simp only [hcolumn, Int.toNat_natCast, List.size_toArray]
      rw [if_pos (Int.natCast_nonneg y)]
      generalize hpassed : snakeLength as.toArray bs.toArray x y as.length = passed at hfurthest
      split
      · next hmeets =>
          subst hy
          exact .met _ x y passed hdiagonal hreach
            (fun step hstep => matches_of_lt_snakeLength (hpassed ▸ hstep))
            (any_iff_meets.mp hmeets)
      · next hmeets =>
          have hapart : ¬ Meets as bs limit opposite diagonal (x + passed) :=
            fun hmeet => hmeets (any_iff_meets.mpr hmeet)
          have hnear := (mem_diagonals_iff.mp hdiagonal).1
          refine ih (hwide.set diagonal (x + passed)) ?_ ?_
          · intro key hkey
            obtain ⟨hlisted, hentrance⟩ := hrest key (List.mem_cons_of_mem diagonal hkey)
            rw [hwide.enter_set hedits hdiagonal hlisted]
            exact ⟨hlisted, hentrance⟩
          · intro key hkey
            have hbound := (mem_diagonals_iff.mp hkey).1
            rw [hwide.get_set (by omega) (by omega)]
            by_cases hsame : key = diagonal
            · rw [hsame, if_pos rfl]
              exact .inr ⟨hfurthest, hapart⟩
            · rw [if_neg hsame]
              exact (hdone key hkey).imp_left fun hmem =>
                (List.mem_cons.mp hmem).resolve_left hsame

theorem round_extendPaths (hwide : reach.Wide most) (hedits : edits < most)
    (hafter : reach.After as bs edits) :
    Round as bs most edits limit opposite
      (extendPaths as.toArray bs.toArray edits limit opposite (Reach.diagonals edits) reach) :=
  round_extendPaths_of_rest hwide hedits
    (fun _ hdiagonal => ⟨hdiagonal, hafter.entrance hdiagonal⟩) fun _ hdiagonal => .inl hdiagonal

/-! ## The point of meeting -/

/-- What makes a point of use for a split: it loses no common items, and is no end of the lists. -/
structure IsSplit (as bs : List α) (x y : Nat) : Prop where
  left : x ≤ as.length
  right : y ≤ bs.length
  common : commonLength (as.take x) (bs.take y) + commonLength (as.drop x) (bs.drop y) =
    commonLength as bs
  proper : 2 + 2 * commonLength as bs ≤ as.length + bs.length →
    0 < x + y ∧ x + y < as.length + bs.length

theorem Reachable.isSplit (hx : x ≤ as.length) (hy : y ≤ bs.length)
    (hfront : Reachable as bs front x y)
    (hback : Reachable as.reverse bs.reverse back (as.length - x) (bs.length - y))
    (hfar : front + back + 2 * commonLength as bs ≤ as.length + bs.length)
    (hhalf : back ≤ front ∧ front ≤ back + 1) : IsSplit as bs x y := by
  obtain ⟨hedits, hcommon⟩ := hfront.meet hx hy hback hfar
  refine ⟨hx, hy, hcommon, fun hproper => ⟨?_, ?_⟩⟩
  · by_contra hstart
    obtain ⟨rfl, rfl⟩ : x = 0 ∧ y = 0 := by omega
    rw [reachable_reverse_iff (Nat.zero_le _) (Nat.zero_le _), List.drop_zero,
      List.drop_zero] at hback
    omega
  · by_contra hend
    obtain ⟨rfl, rfl⟩ : x = as.length ∧ y = bs.length := by omega
    rw [Reachable, List.take_length, List.take_length] at hfront
    omega

theorem isSplit_of_meets_backward (hparity : (as.length + bs.length) % 2 = 1)
    (hdiagonal : (x : Int) - y ∈ Reach.diagonals (edits + 1))
    (hreach : Reachable as bs (edits + 1) x y) {passed : Nat}
    (hsnake : ∀ step < passed, Matches as bs (x + step) (y + step))
    (hbackward : backward.After as.reverse bs.reverse (edits + 1))
    (hmeets : Meets as bs (some edits) backward ((x : Int) - y) (x + passed))
    (hfar : edits + 1 + edits + 2 * commonLength as bs ≤ as.length + bs.length) :
    IsSplit as bs x y := by
  obtain ⟨hnear, hmeet⟩ := meets_some_iff.mp hmeets
  rw [mem_diagonals_iff] at hdiagonal
  obtain ⟨hx, hy⟩ := hreach.within hnear hfar
  generalize hkey : -((x : Int) - y - ((as.length : Int) - bs.length)) = key at hmeet
  obtain ⟨v, hv, hback⟩ := (hbackward key (mem_diagonals_iff.mpr (by omega))).reach
  generalize backward.get key = u at hmeet hv hback
  refine hreach.isSplit hx hy ?_ hfar (by omega)
  rcases Nat.le_total (as.length - x) u with hle | hle
  · obtain ⟨back, rfl⟩ := Nat.exists_eq_add_of_le hle
    obtain rfl : v = bs.length - y + back := by omega
    exact hback.back_of_le
  · obtain ⟨count, hcount⟩ := Nat.exists_eq_add_of_le hle
    have hcount' : bs.length - y = v + count := by omega
    rw [hcount, hcount']
    refine hback.along fun step hstep => ?_
    have hmatch := matches_reverse (hsnake (count - 1 - step) (by omega))
    have hi : as.length - 1 - (x + (count - 1 - step)) = u + step := by omega
    have hj : bs.length - 1 - (y + (count - 1 - step)) = v + step := by omega
    rwa [hi, hj] at hmatch

theorem isSplit_of_meets_forward (hparity : (as.length + bs.length) % 2 = 0)
    (hdiagonal : (x : Int) - y ∈ Reach.diagonals edits)
    (hreach : Reachable as.reverse bs.reverse edits x y) {passed : Nat}
    (hsnake : ∀ step < passed, Matches as.reverse bs.reverse (x + step) (y + step))
    (hforward : forward.After as bs (edits + 1))
    (hmeets : Meets as.reverse bs.reverse (some edits) forward ((x : Int) - y) (x + passed))
    (hfar : edits + edits + 2 * commonLength as bs ≤ as.length + bs.length) :
    IsSplit as bs (as.length - (x + passed)) (bs.length - (y + passed)) := by
  obtain ⟨hnear, hmeet⟩ := meets_some_iff.mp hmeets
  rw [mem_diagonals_iff] at hdiagonal
  rw [List.length_reverse, List.length_reverse] at hnear hmeet
  have hback := hreach.along hsnake
  have hnear' : (((x + passed : Nat) : Int) - (y + passed : Nat) -
      ((as.reverse.length : Int) - bs.reverse.length)).natAbs ≤ edits := by
    rw [List.length_reverse, List.length_reverse]
    omega
  have hwithin := hback.within hnear' (by simpa [commonLength_reverse] using hfar)
  rw [List.length_reverse, List.length_reverse] at hwithin
  obtain ⟨hx, hy⟩ := hwithin
  generalize hkey : -((x : Int) - y - ((as.length : Int) - bs.length)) = key at hmeet
  obtain ⟨v, hv, hfront⟩ := (hforward key (mem_diagonals_iff.mpr (by omega))).reach
  generalize forward.get key = u at hmeet hv hfront
  have hle : as.length - (x + passed) ≤ u := by omega
  obtain ⟨back, rfl⟩ := Nat.exists_eq_add_of_le hle
  obtain rfl : v = bs.length - (y + passed) + back := by omega
  refine hfront.back_of_le.isSplit (Nat.sub_le _ _) (Nat.sub_le _ _) ?_ hfar (by omega)
  rwa [Nat.sub_sub_self hx, Nat.sub_sub_self hy]

/-! ## The search -/

theorem exists_meets (hforward : forward.After as bs (front + 1))
    (hbackward : backward.After as.reverse bs.reverse (back + 1))
    (hedits : as.length + bs.length = front + back + 2 * commonLength as bs) :
    ∃ diagonal ∈ Reach.diagonals front,
      Meets as bs (some back) backward diagonal (forward.get diagonal) := by
  obtain ⟨i, hi, j, hj, hfront, hback⟩ := exists_reachable_split as bs front back hedits
  have hle := commonLength_take_add_drop_le as bs i j
  have hnear := hfront.near_diagonal
  rw [← reachable_reverse_iff hi hj] at hback
  have hnear' := hback.near_diagonal
  have hexact := hfront.meet hi hj hback (by omega)
  have hparity : (i + j) % 2 = front % 2 := by
    rw [reachable_reverse_iff hi hj] at hback
    unfold Reachable at hfront
    omega
  have hdiagonal : (i : Int) - j ∈ Reach.diagonals front := mem_diagonals_iff.mpr (by omega)
  refine ⟨(i : Int) - j, hdiagonal, meets_some_iff.mpr ⟨by omega, ?_⟩⟩
  have hplace := (hforward _ hdiagonal).most i j rfl hfront
  have hplace' := (hbackward (-((i : Int) - j - ((as.length : Int) - bs.length)))
    (mem_diagonals_iff.mpr (by omega))).most (as.length - i) (bs.length - j) (by omega) hback
  omega

theorem Round.isSplit_or_far {steps : Nat} {outcome : Reach × Option (Nat × Nat × Nat)}
    (hround : Round as bs most steps limit backward outcome)
    (hlimit : ∀ edits, limit = some edits ↔
      (as.length + bs.length) % 2 = 1 ∧ steps = edits + 1)
    (hbackward : backward.After as.reverse bs.reverse steps)
    (hfar : 2 * steps + 2 * commonLength as bs ≤ as.length + bs.length + 1) :
    (∃ reach x y passed, outcome = (reach, some (x, y, passed)) ∧ IsSplit as bs x y) ∨
      ∃ reach, outcome = (reach, none) ∧ reach.Wide most ∧ reach.After as bs (steps + 1) ∧
        2 * steps + 2 * commonLength as bs ≤ as.length + bs.length := by
  cases hround with
  | met reach x y passed hdiagonal hreach hsnake hmeets =>
      obtain ⟨edits, hsome, -⟩ := id hmeets
      obtain ⟨hparity, rfl⟩ := (hlimit edits).mp hsome
      rw [hsome] at hmeets
      exact .inl ⟨reach, x, y, passed, rfl, isSplit_of_meets_backward hparity hdiagonal hreach
        hsnake hbackward hmeets (by omega)⟩
  | apart reach hwide hforward hapart =>
      refine .inr ⟨reach, rfl, hwide, hforward, ?_⟩
      by_contra hnear
      have hleft := commonLength_le_left as bs
      have hright := commonLength_le_right as bs
      obtain ⟨edits, rfl⟩ : ∃ edits, steps = edits + 1 := ⟨steps - 1, by omega⟩
      obtain ⟨diagonal, hdiagonal, hmeets⟩ := exists_meets hforward hbackward (by omega)
      rw [← (hlimit edits).mpr ⟨by omega, rfl⟩] at hmeets
      exact hapart diagonal hdiagonal hmeets

theorem Round.isSplit_or_far_reverse {steps : Nat} {outcome : Reach × Option (Nat × Nat × Nat)}
    (hround : Round as.reverse bs.reverse most steps limit forward outcome)
    (hlimit : ∀ edits, limit = some edits ↔
      (as.length + bs.length) % 2 = 0 ∧ steps = edits)
    (hforward : forward.After as bs (steps + 1))
    (hfar : 2 * steps + 2 * commonLength as bs ≤ as.length + bs.length) :
    (∃ reach x y passed, outcome = (reach, some (x, y, passed)) ∧
        IsSplit as bs (as.length - (x + passed)) (bs.length - (y + passed))) ∨
      ∃ reach, outcome = (reach, none) ∧ reach.Wide most ∧
        reach.After as.reverse bs.reverse (steps + 1) ∧
        2 * (steps + 1) + 2 * commonLength as bs ≤ as.length + bs.length + 1 := by
  cases hround with
  | met reach x y passed hdiagonal hreach hsnake hmeets =>
      obtain ⟨edits, hsome, -⟩ := id hmeets
      obtain ⟨hparity, rfl⟩ := (hlimit edits).mp hsome
      rw [hsome] at hmeets
      exact .inl ⟨reach, x, y, passed, rfl, isSplit_of_meets_forward hparity hdiagonal hreach
        hsnake hforward hmeets (by omega)⟩
  | apart reach hwide hbackward hapart =>
      refine .inr ⟨reach, rfl, hwide, hbackward, ?_⟩
      by_contra hnear
      rw [← List.reverse_reverse as, ← List.reverse_reverse bs] at hforward
      obtain ⟨diagonal, hdiagonal, hmeets⟩ := exists_meets hbackward hforward (by
        rw [List.length_reverse, List.length_reverse, commonLength_reverse]
        omega)
      rw [← (hlimit steps).mpr ⟨by omega, rfl⟩] at hmeets
      exact hapart diagonal hdiagonal hmeets

theorem exists_findSplit {fuel steps : Nat} (hfuel : most = steps + fuel)
    (hmost : as.length + bs.length + 1 < 2 * most) (hwide : forward.Wide most)
    (hwide' : backward.Wide most) (hforward : forward.After as bs steps)
    (hbackward : backward.After as.reverse bs.reverse steps)
    (hfar : 2 * steps + 2 * commonLength as bs ≤ as.length + bs.length + 1) :
    ∃ x y, findSplit as.toArray bs.toArray as.reverse.toArray bs.reverse.toArray fuel steps
      forward backward = some (x, y) ∧ IsSplit as bs x y := by
  induction fuel generalizing steps forward backward with
  | zero => omega
  | succ fuel ih =>
      have hlimit (edits : Nat) :
          (if (as.length + bs.length) % 2 = 1 ∧ 0 < steps then some (steps - 1) else none) =
              some edits ↔
            (as.length + bs.length) % 2 = 1 ∧ steps = edits + 1 := by
        split <;> simp <;> omega
      have hlimit' (edits : Nat) :
          (if (as.length + bs.length) % 2 = 1 then none else some steps) = some edits ↔
            (as.length + bs.length) % 2 = 0 ∧ steps = edits := by
        split <;> simp <;> omega
      rw [findSplit]
      simp only [List.size_toArray]
      rcases (round_extendPaths hwide (by omega) hforward).isSplit_or_far hlimit
        hbackward hfar with
        ⟨reach, x, y, passed, hmet, hsplit⟩ | ⟨reach, hapart, hwide, hforward, hfar⟩
      · rw [hmet]
        exact ⟨x, y, rfl, hsplit⟩
      rw [hapart]
      dsimp only
      rcases (round_extendPaths hwide' (by omega) hbackward).isSplit_or_far_reverse
        hlimit' hforward hfar with
        ⟨reach', x, y, passed, hmet, hsplit⟩ | ⟨reach', hapart', hwide', hbackward, hfar⟩
      · rw [hmet]
        exact ⟨_, _, rfl, hsplit⟩
      · rw [hapart']
        exact ih (by omega) hwide hwide' hforward hbackward hfar

theorem Reach.after_start (as bs : List α) (bias size : Nat) :
    (Reach.mk bias (.replicate size 0)).After as bs 0 := by
  simp only [After, get, Array.getD_eq_getD_getElem?, Array.getElem?_replicate]
  split <;> rfl

theorem exists_splitPoint (as bs : List α) :
    ∃ x y, splitPoint as bs = some (x, y) ∧ IsSplit as bs x y := by
  have hleft := commonLength_le_left as bs
  have hright := commonLength_le_right as bs
  exact exists_findSplit (Nat.zero_add _).symm (by omega) ⟨rfl, by simp⟩ ⟨rfl, by simp⟩
    (Reach.after_start as bs _ _) (Reach.after_start as.reverse bs.reverse _ _) (by omega)

end Sections
