import Sections.PathTable
import Sections.Proofs.Association
import Sections.Proofs.OrderedEntries
import Sections.Proofs.SlugPath

/-!
# Entries of path tables

An insertion under a new path adds one entry and leaves the others as they are.  The entries stay in
the order of their paths.
-/

namespace Sections.PathTable

variable {α : Type}

theorem entries_insert_perm {table : PathTable α} {path : SlugPath} (hnew : path ∉ table.paths)
    (value : α) : (table.insert path value).entries.Perm ((path, value) :: table.entries) :=
  insertEntry_perm hnew value

theorem paths_insert_perm {table : PathTable α} {path : SlugPath} (hnew : path ∉ table.paths)
    (value : α) : (table.insert path value).paths.Perm (path :: table.paths) :=
  (entries_insert_perm hnew value).map Prod.fst

theorem get?_eq_some_iff {table : PathTable α} (hnodup : table.paths.Nodup) {path : SlugPath}
    {value : α} : table.get? path = some value ↔ (path, value) ∈ table.entries :=
  lookup_eq_some_iff_mem hnodup

/-! ## Order -/

def Ordered (table : PathTable α) : Prop := table.entries.Pairwise (·.1 < ·.1)

theorem ordered_empty : (empty : PathTable α).Ordered := .nil

theorem Ordered.insert {table : PathTable α} (hordered : table.Ordered) (path : SlugPath)
    (value : α) : (table.insert path value).Ordered :=
  pairwise_insertEntry hordered

theorem Ordered.paths {table : PathTable α} (hordered : table.Ordered) :
    table.paths.Pairwise (· < ·) :=
  List.pairwise_map.mpr hordered

end Sections.PathTable
