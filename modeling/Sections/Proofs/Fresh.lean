import Mathlib.Data.List.Nodup
import Mathlib.Data.List.Perm.Subperm

/-!
# Fresh names

Among one more candidate than there are used names at least one is free.
-/

namespace Sections

theorem exists_fresh {α : Type} {candidate : Nat → α} (hinjective : Function.Injective candidate)
    (used : List α) (first : Nat) :
    ∃ number ∈ List.range' first (used.length + 1), candidate number ∉ used := by
  by_contra hnone
  have hused : (List.range' first (used.length + 1)).map candidate ⊆ used := by
    intro name hname
    obtain ⟨number, hnumber, rfl⟩ := List.mem_map.mp hname
    by_contra hfree
    exact hnone ⟨number, hnumber, hfree⟩
  have hnodup : ((List.range' first (used.length + 1)).map candidate).Nodup :=
    (List.nodup_range' 1).map hinjective
  have hle := (hnodup.subperm hused).length_le
  simp only [List.length_map, List.length_range'] at hle
  omega

end Sections
