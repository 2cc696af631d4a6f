import Mathlib.Data.List.Nodup
import Mathlib.Order.Defs.Unbundled
import Sections.OrderedEntries

/-!
# Keys and values of ordered entries

An entry that is put under a new key leaves the others as they are, and the keys stay in order.  So
entries with distinct keys are all there when they have been ordered.
-/

namespace Sections

variable {κ α : Type} [LT κ] [DecidableLT κ] [DecidableEq κ] {key : κ} {value : α}
  {entries : List (κ × α)}

theorem insertEntry_perm (hnew : key ∉ entries.map Prod.fst) (value : α) :
    (insertEntry key value entries).Perm ((key, value) :: entries) := by
  induction entries with
  | nil => exact .refl _
  | cons entry rest ih =>
      obtain ⟨hne, hrest⟩ : key ≠ entry.1 ∧ key ∉ rest.map Prod.fst := by
        simpa [not_or] using hnew
      unfold insertEntry
      split
      · exact .refl _
      · exact ((ih hrest).cons entry).trans (.swap _ _ _)

theorem eq_or_mem_of_mem_insertEntry {entry : κ × α} (h : entry ∈ insertEntry key value entries) :
    entry = (key, value) ∨ entry ∈ entries := by
  induction entries with
  | nil => exact .inl (List.mem_singleton.mp h)
  | cons first rest ih =>
      unfold insertEntry at h
      split at h
      · exact List.mem_cons.mp h
      · split at h
        · exact (List.mem_cons.mp h).imp_right (List.mem_cons_of_mem first)
        · rcases List.mem_cons.mp h with rfl | hrest
          · exact .inr List.mem_cons_self
          · exact (ih hrest).imp_right (List.mem_cons_of_mem first)

section Order

variable [IsStrictTotalOrder κ (· < ·)]

theorem pairwise_insertEntry (h : entries.Pairwise (·.1 < ·.1)) :
    (insertEntry key value entries).Pairwise (·.1 < ·.1) := by
  induction entries with
  | nil => exact List.pairwise_singleton _ _
  | cons first rest ih =>
      obtain ⟨hfirst, hrest⟩ := List.pairwise_cons.mp h
      unfold insertEntry
      split
      next hless =>
        refine List.pairwise_cons.mpr ⟨?_, h⟩
        intro entry hentry
        rcases List.mem_cons.mp hentry with rfl | hentry
        · exact hless
        · exact trans_of (· < ·) hless (hfirst entry hentry)
      next hless =>
        split
        next heq => exact List.pairwise_cons.mpr ⟨by simpa [heq] using hfirst, hrest⟩
        next hne =>
          have hgreater : first.1 < key := by
            rcases trichotomous_of (· < ·) key first.1 with hkey | hkey | hkey
            · exact absurd hkey hless
            · exact absurd hkey hne
            · exact hkey
          refine List.pairwise_cons.mpr ⟨?_, ih hrest⟩
          intro entry hentry
          rcases eq_or_mem_of_mem_insertEntry hentry with rfl | hentry
          · exact hgreater
          · exact hfirst entry hentry

theorem pairwise_orderEntries (entries : List (κ × α)) :
    (orderEntries entries).Pairwise (·.1 < ·.1) := by
  refine List.foldlRecOn entries _ .nil ?_
  intro ordered hordered entry _
  exact pairwise_insertEntry hordered

end Order

theorem foldl_insertEntry_perm {ordered : List (κ × α)}
    (hnodup : ((ordered ++ entries).map Prod.fst).Nodup) :
    (entries.foldl (fun ordered (key, value) => insertEntry key value ordered) ordered).Perm
      (ordered ++ entries) := by
  induction entries generalizing ordered with
  | nil => simp
  | cons entry rest ih =>
      have hnew : entry.1 ∉ ordered.map Prod.fst := by
        rw [List.map_append, List.map_cons] at hnodup
        exact fun hmem => List.disjoint_of_nodup_append hnodup hmem List.mem_cons_self
      have hput : (insertEntry entry.1 entry.2 ordered ++ rest).Perm (ordered ++ entry :: rest) :=
        ((insertEntry_perm hnew entry.2).append_right rest).trans List.perm_middle.symm
      rw [List.foldl_cons]
      exact (ih ((hput.map Prod.fst).nodup_iff.mpr hnodup)).trans hput

theorem orderEntries_perm (hnodup : (entries.map Prod.fst).Nodup) :
    (orderEntries entries).Perm entries :=
  foldl_insertEntry_perm hnodup

end Sections
