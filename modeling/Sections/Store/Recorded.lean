import Sections.Store.Basic

/-!
# Recording and scripting stores

A recorded store keeps a list of the calls that are made to it.  A script answers loads and saves
with prepared answers, in order.
-/

namespace Sections

inductive StoreCall where
  | load (id : String)
  | save (id text : String) (expected : Revision)
  deriving DecidableEq, Repr

/-- The same store with a list of the calls, the last one last, beside its state. -/
def Store.recorded {σ : Type} (store : Store σ) : Store (σ × List StoreCall) where
  load id := record (.load id) (store.load id)
  save id text expected writePatch :=
    record (.save id text expected) (store.save id text expected writePatch)
where
  record {α γ : Type} (call : γ) (step : StoreM σ α) : StoreM (σ × List γ) α :=
    ExceptT.mk fun (state, calls) =>
      let (answer, state) := step.run state
      (answer, state, calls ++ [call])

structure Script where
  loads : List (Except DocError Snapshot) := []
  /-- For each save its failure, or the new revision and what is taken for the old text. -/
  saves : List (Except DocError (Revision × String)) := []

namespace Script

def exhausted : DocError := .io "no answer prepared"

def load (_id : String) : StoreM Script Snapshot := do
  match (← get).loads with
  | answer :: rest =>
    modify fun script => { script with loads := rest }
    MonadExcept.ofExcept answer
  | [] => throw exhausted

def save (_id text : String) (_expected : Revision) (writePatch : PatchWriter) :
    StoreM Script Commit := do
  match (← get).saves with
  | answer :: rest =>
    modify fun script => { script with saves := rest }
    let (revision, old) ← MonadExcept.ofExcept answer
    return ⟨revision, writePatch old text⟩
  | [] => throw exhausted

def store : Store Script := ⟨load, save⟩

end Script

end Sections
