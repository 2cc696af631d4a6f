import Sections.Diff.Shortest
import Sections.Proofs.Diff.EditGraph

/-!
# Furthest reaching paths

A round of the search extends the paths on every other diagonal by one edit and the equal items
after it.  The paths then reach the furthest points that can be reached by so many edits.
-/

namespace Sections

variable {α : Type} [DecidableEq α] {as bs : List α} {edits x y place most : Nat} {diagonal : Int}

/-! ## Equal items -/

theorem matches_of_lt_snakeLength {fuel count : Nat}
    (hcount : count < snakeLength as.toArray bs.toArray x y fuel) :
    Matches as bs (x + count) (y + count) := by
  induction fuel generalizing x y count with
  | zero => simp [snakeLength] at hcount
  | succ fuel ih =>
      unfold snakeLength at hcount
      split at hcount
      · next a b ha hb =>
          split at hcount
          · next heq =>
              cases count with
              | zero => exact ⟨a, by simpa using ha, by simpa [heq] using hb⟩
              | succ count =>
                  have hrest := ih (Nat.lt_of_succ_lt_succ hcount)
                  rwa [Nat.add_right_comm, Nat.add_right_comm y] at hrest
          · simp at hcount
      · simp at hcount

theorem not_matches_snakeLength {fuel : Nat} (hfuel : as.length ≤ x + fuel) :
    ¬ Matches as bs (x + snakeLength as.toArray bs.toArray x y fuel)
      (y + snakeLength as.toArray bs.toArray x y fuel) := by
  induction fuel generalizing x y with
  | zero =>
      rintro ⟨c, hleft, -⟩
      have hinside := (List.getElem?_eq_some_iff.mp hleft).1
      omega
  | succ fuel ih =>
      unfold snakeLength
      split
      · next a b ha hb =>
          split
          · next heq =>
              have hrest := ih (x := x + 1) (y := y + 1) (by omega)
              rwa [Nat.add_right_comm, Nat.add_right_comm y] at hrest
          · next hne =>
              rintro ⟨c, hleft, hright⟩
              simp only [List.getElem?_toArray, Nat.add_zero] at ha hb hleft hright
              rw [ha] at hleft
              rw [hb] at hright
              exact hne (Option.some.inj (hleft.trans hright.symm))
      · next hnone =>
          rintro ⟨c, hleft, hright⟩
          exact hnone c c (by simpa using hleft) (by simpa using hright)

theorem Reachable.along {count : Nat} (hreach : Reachable as bs edits x y)
    (hsnake : ∀ step < count, Matches as bs (x + step) (y + step)) :
    Reachable as bs edits (x + count) (y + count) := by
  induction count with
  | zero => exact hreach
  | succ count ih =>
      have hshort := ih fun step hstep => hsnake step (Nat.lt_succ_of_lt hstep)
      exact hshort.keep (hsnake count (Nat.lt_succ_self count))

/-! ## Diagonals -/

structure Furthest (as bs : List α) (edits : Nat) (diagonal : Int) (place : Nat) : Prop where
  reach : ∃ other : Nat, (place : Int) - other = diagonal ∧ Reachable as bs edits place other
  most : ∀ i j : Nat, (i : Int) - j = diagonal → Reachable as bs edits i j → i ≤ place

/-- What it means that only equal items lead further along a diagonal than to a point. -/
structure Entrance (as bs : List α) (edits : Nat) (diagonal : Int) (place : Nat) : Prop where
  reach : ∃ other : Nat, (place : Int) - other = diagonal ∧ Reachable as bs edits place other
  most : ∀ i j : Nat, (i : Int) - j = diagonal → Reachable as bs edits i j → place < i →
    ∃ i' j', i = i' + 1 ∧ j = j' + 1 ∧ Matches as bs i' j'

theorem Entrance.furthest (hentrance : Entrance as bs edits diagonal x)
    (hdiagonal : (x : Int) - y = diagonal) :
    Furthest as bs edits diagonal (x + snakeLength as.toArray bs.toArray x y as.length) := by
  constructor
  case reach =>
    obtain ⟨other, hother, hreach⟩ := hentrance.reach
    obtain rfl : other = y := by omega
    refine ⟨_, ?_, hreach.along fun step hstep => matches_of_lt_snakeLength hstep⟩
    push_cast
    omega
  case most =>
    intro i
    induction i with
    | zero => exact fun _ _ _ => Nat.zero_le _
    | succ i ih =>
        intro j hj hreach
        by_contra hbeyond
        obtain ⟨i', j', hi', rfl, hmatch⟩ := hentrance.most (i + 1) j hj hreach (by omega)
        obtain rfl : i = i' := by omega
        have hle := ih j' (by omega) hreach.back
        have hend : x + snakeLength as.toArray bs.toArray x y as.length = i := by omega
        have hend' : y + snakeLength as.toArray bs.toArray x y as.length = j' := by omega
        rw [← hend, ← hend'] at hmatch
        exact not_matches_snakeLength (Nat.le_add_left as.length x) hmatch

theorem mem_diagonals_iff {diagonal : Int} {steps : Nat} :
    diagonal ∈ Reach.diagonals steps ↔
      diagonal.natAbs ≤ steps ∧ (diagonal - steps) % 2 = 0 := by
  simp only [Reach.diagonals, List.mem_map, List.mem_range]
  constructor
  · rintro ⟨index, hindex, rfl⟩
    omega
  · rintro ⟨hbound, hparity⟩
    exact ⟨((steps - diagonal) / 2).toNat, by omega, by omega⟩

namespace Reach

/-- Whether a reach has room for so many rounds. -/
structure Wide (most : Nat) (reach : Reach) : Prop where
  bias : reach.bias = most + 1
  size : reach.places.size = 2 * most + 3

variable {reach : Reach} {key : Int}

theorem Wide.set (hwide : reach.Wide most) (diagonal : Int) (place : Nat) :
    (reach.set diagonal place).Wide most :=
  ⟨hwide.bias, by simp [Reach.set, hwide.size]⟩

theorem Wide.get_set (hwide : reach.Wide most) (hdiagonal : diagonal.natAbs ≤ most)
    (hkey : key.natAbs ≤ most) (place : Nat) :
    (reach.set diagonal place).get key = if key = diagonal then place else reach.get key := by
  have hbias := hwide.bias
  have hinside : (diagonal + reach.bias).toNat < reach.places.size := by
    rw [hwide.size]
    omega
  simp only [Reach.get, Reach.set, Array.getD_eq_getD_getElem?, Array.getElem?_setIfInBounds]
  by_cases hsame : key = diagonal
  · rw [hsame, if_pos rfl, if_pos rfl, if_pos hinside, Option.getD_some]
  · rw [if_neg hsame, if_neg (by omega)]

theorem Wide.enter_set {steps : Nat} (hwide : reach.Wide most) (hsteps : steps < most)
    (hdiagonal : diagonal ∈ diagonals steps) (hkey : key ∈ diagonals steps) (place : Nat) :
    (reach.set diagonal place).enter steps key = reach.enter steps key := by
  rw [mem_diagonals_iff] at hdiagonal hkey
  have hbelow : (reach.set diagonal place).get (key - 1) = reach.get (key - 1) := by
    rw [hwide.get_set (by omega) (by omega), if_neg (by omega)]
  have habove : (reach.set diagonal place).get (key + 1) = reach.get (key + 1) := by
    rw [hwide.get_set (by omega) (by omega), if_neg (by omega)]
  rw [enter, enter, hbelow, habove]

def After (as bs : List α) (reach : Reach) : Nat → Prop
  | 0 => reach.get 1 = 0
  | edits + 1 => ∀ diagonal ∈ diagonals edits, Furthest as bs edits diagonal (reach.get diagonal)

theorem After.entrance (hafter : reach.After as bs edits) (hdiagonal : diagonal ∈ diagonals edits) :
    Entrance as bs edits diagonal (reach.enter edits diagonal) := by
  rw [mem_diagonals_iff] at hdiagonal
  cases edits with
  | zero =>
      obtain rfl : diagonal = 0 := by omega
      have hfirst : reach.get 1 = 0 := hafter
      have hzero : reach.enter 0 0 = 0 := by simpa [enter] using hfirst
      rw [hzero]
      constructor
      case reach => exact ⟨0, rfl, .start as bs 0⟩
      case most =>
        intro i j hj hreach hpositive
        by_contra hmatch
        push Not at hmatch
        obtain ⟨fewer, hfewer, -⟩ := hreach.exists_edit (by omega) hmatch
        omega
  | succ edits =>
      have hkey (key : Int) (hnear : key.natAbs ≤ edits) (hparity : (key - edits) % 2 = 0) :
          Furthest as bs edits key (reach.get key) :=
        hafter key (mem_diagonals_iff.mpr ⟨hnear, hparity⟩)
      constructor
      case reach =>
        unfold enter
        split
        · have hreach := (hkey (diagonal + 1) (by omega) (by omega)).reach
          obtain ⟨other, hother, hreach⟩ := hreach
          exact ⟨other + 1, by omega, hreach.insert⟩
        · have hreach := (hkey (diagonal - 1) (by omega) (by omega)).reach
          obtain ⟨other, hother, hreach⟩ := hreach
          exact ⟨other, by omega, hreach.delete⟩
      case most =>
        intro i j hj hreach hbeyond
        by_contra hmatch
        push Not at hmatch
        obtain ⟨fewer, hfewer, ⟨i', rfl, hshort⟩ | ⟨j', rfl, hshort⟩⟩ :=
          hreach.exists_edit (by omega) hmatch
        · obtain rfl : edits = fewer := by omega
          have hnear := hshort.near_diagonal
          have hle := (hkey (diagonal - 1) (by omega) (by omega)).most i' j (by omega) hshort
          unfold enter at hbeyond
          split at hbeyond <;> omega
        · obtain rfl : edits = fewer := by omega
          have hnear := hshort.near_diagonal
          have hle := (hkey (diagonal + 1) (by omega) (by omega)).most i j' (by omega) hshort
          unfold enter at hbeyond
          split at hbeyond <;> omega

end Reach

end Sections
