import Sections.Store.Basic

/-!
# The store in memory

A revision names the number of the commit, counted over all documents, and the hash of the text.
-/

namespace Sections

structure Memory where
  documents : List (String × Snapshot) := []
  generation : Nat := 0
  deriving DecidableEq, Repr, Inhabited

namespace Memory

def get? (memory : Memory) (id : String) : Option Snapshot := memory.documents.lookup id

def size (memory : Memory) : Nat := memory.documents.length

def revisionFor (hash : TextHash) (generation : Nat) (text : String) : Revision :=
  ⟨toString generation ++ "-" ++ fingerprint hash text⟩

def insert (hash : TextHash) (id text : String) (memory : Memory) : Revision × Memory :=
  let generation := memory.generation + 1
  let revision := revisionFor hash generation text
  (revision,
    ⟨(id, ⟨text, revision⟩) :: memory.documents.filter (fun entry => entry.1 != id), generation⟩)

def load (id : String) : StoreM Memory Snapshot := do
  match (← get).get? id with
  | some snapshot => return snapshot
  | none => throw (.notFound id)

def save (hash : TextHash) (id text : String) (expected : Revision) (writePatch : PatchWriter) :
    StoreM Memory Commit := do
  match (← get).get? id with
  | some current =>
    if current.revision = expected then commit (writePatch current.text text)
    else throw (.revisionConflict current.revision)
  | none => commit (writePatch "" text)
where
  commit (patch : String) : StoreM Memory Commit := do
    let revision ← modifyGet (insert hash id text)
    return ⟨revision, patch⟩

def store (hash : TextHash) : Store Memory := ⟨load, save hash⟩

end Memory

end Sections
