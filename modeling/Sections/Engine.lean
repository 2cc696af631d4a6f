import Sections.Diff.Patch
import Sections.IndexCache
import Sections.Resolve
import Sections.Store.Basic

/-!
# Reading and editing stored documents

A document is loaded, indexed, and the selector resolved; an edit is then made on the loaded text
and saved for the expected revision.  Nothing is saved if a step before fails, and the decision
about the revision is the store's.
-/

namespace Sections

structure PreparedEdit where
  spanned : String
  updated : String
  deriving DecidableEq, Repr

def DocEdit.prepare (edit : DocEdit) (index : Index) (text : String) :
    Except DocError PreparedEdit := do
  let span ← resolveSpan index edit.selector text.utf8ByteSize
  let spanned ← span.slice text
  let updated ← (SpanEdit.mk edit.op span edit.text).applyTo text
  return ⟨spanned, updated⟩

def Selector.extract (selector : Selector) (index : Index) (text : String) :
    Except DocError (String × Span) := do
  match ← resolve index selector text.utf8ByteSize with
  | .listing listing => return (listing, ⟨0, 0⟩)
  | .region span => return (← span.slice text, span)

structure PendingEdit where
  id : String
  edit : DocEdit
  expected : Revision
  loaded : Snapshot
  prepared : PreparedEdit
  deriving DecidableEq, Repr

structure Engine (σ : Type) where
  store : Store σ
  options : IndexOptions := {}
  hash : TextHash := xxh3
  parse : TextParser := fun text => .ok (parseDocument text)

/-- Steps of an engine within a session, which keeps an index cache between them. -/
abbrev SessionM (σ : Type) := ExceptT DocError (StateT IndexCache (StateM σ))

namespace Engine

variable {σ : Type}

def newCache (engine : Engine σ) : IndexCache :=
  { options := engine.options, parse := engine.parse }

def callStore {α : Type} (step : StoreM σ α) : SessionM σ α := ExceptT.mk (StateT.lift step.run)

def alone {α : Type} (engine : Engine σ) (step : SessionM σ α) : StoreM σ α :=
  ExceptT.mk do return (← step.run.run engine.newCache).1

def indexFor (engine : Engine σ) (text : String) : SessionM σ Index :=
  ExceptT.mk (modifyGetThe IndexCache (·.indexFor engine.hash text))

def readWithin (engine : Engine σ) (id : String) (selector : Selector) : SessionM σ Slice := do
  let snapshot ← callStore (engine.store.load id)
  let index ← engine.indexFor snapshot.text
  let (text, span) ← MonadExcept.ofExcept (selector.extract index snapshot.text)
  return ⟨text, span, snapshot.revision⟩

/-- Loads a document and makes an edit on its text, in a session.  Nothing is saved yet. -/
def beginApply (engine : Engine σ) (id : String) (edit : DocEdit) (expected : Revision) :
    SessionM σ PendingEdit := do
  MonadExcept.ofExcept (edit.op.checkPayload edit.text)
  let snapshot ← callStore (engine.store.load id)
  let index ← engine.indexFor snapshot.text
  let prepared ← MonadExcept.ofExcept (edit.prepare index snapshot.text)
  return ⟨id, edit, expected, snapshot, prepared⟩

def finishApply (engine : Engine σ) (pending : PendingEdit) : SessionM σ Envelope := do
  let commit ← callStore (engine.store.save pending.id pending.prepared.updated pending.expected
    fun _ _ => unifiedPatch pending.loaded.text pending.prepared.updated)
  return ⟨pending.id, pending.expected, commit.revision,
    [⟨pending.edit.selector, pending.edit.op, some pending.prepared.spanned, pending.edit.text⟩],
    commit.patch⟩

/-- Makes and saves an edit, in a session.  Other steps of the store may come in between. -/
def applyWithin (engine : Engine σ) (id : String) (edit : DocEdit) (expected : Revision) :
    SessionM σ Envelope := do
  engine.finishApply (← engine.beginApply id edit expected)

def read (engine : Engine σ) (id : String) (selector : Selector) : StoreM σ Slice :=
  engine.alone (engine.readWithin id selector)

def apply (engine : Engine σ) (id : String) (edit : DocEdit) (expected : Revision) :
    StoreM σ Envelope :=
  engine.alone (engine.applyWithin id edit expected)

def index (engine : Engine σ) (id : String) : StoreM σ Index := do
  let snapshot ← engine.store.load id
  MonadExcept.ofExcept (Index.read engine.parse engine.options snapshot.text)

end Engine

end Sections
