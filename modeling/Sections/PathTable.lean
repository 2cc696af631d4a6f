import Sections.OrderedEntries
import Sections.SlugPath

/-!
# Tables keyed by paths

The entries stand in the order of their paths, each path once.
-/

namespace Sections

structure PathTable (α : Type) where
  entries : List (SlugPath × α) := []
  deriving DecidableEq, Repr, Inhabited

namespace PathTable

variable {α : Type}

def empty : PathTable α := ⟨[]⟩

def insert (table : PathTable α) (path : SlugPath) (value : α) : PathTable α :=
  ⟨insertEntry path value table.entries⟩

def get? (table : PathTable α) (path : SlugPath) : Option α := table.entries.lookup path

def paths (table : PathTable α) : List SlugPath := table.entries.map Prod.fst

def size (table : PathTable α) : Nat := table.entries.length

end PathTable

end Sections
