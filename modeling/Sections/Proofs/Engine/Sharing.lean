import Mathlib.Logic.Function.Basic
import Sections.Proofs.Engine.Cache
import Sections.Proofs.Engine.Session
import Sections.Proofs.Store.Ledger

/-!
# Clients that share a store

Any number of clients work on one store in memory, each through a session of its own.  A step of a
client makes one call to the store: it inserts a document, reads a region, loads for an edit, or
saves the edit it has loaded for.  Steps of the clients follow each other in any order.

Whatever the order, the store agrees with the ledger of the revisions handed out, and the sessions
index faithfully.
-/

namespace Sections

variable {κ : Type}

structure Sharing (κ : Type) where
  hash : TextHash
  parse : String → Node
  options : κ → IndexOptions

/-- A client, with the edit that waits to be saved if it is in the middle of one. -/
structure Client where
  cache : IndexCache
  pending : Option PendingEdit := none

structure SharedStore (κ : Type) where
  memory : Memory := {}
  clients : κ → Client
  issues : List Issue := []

inductive ClientStep where
  | openSession
  | insert (id text : String)
  | read (id : String) (selector : Selector)
  | beginApply (id : String) (edit : DocEdit) (expected : Revision)
  | finishApply

def SharedStore.handedOut (shared : SharedStore κ) : List Revision :=
  shared.issues.map Issue.revision

namespace Sharing

def engine (sharing : Sharing κ) (client : κ) : Engine Memory where
  store := Memory.store sharing.hash
  options := sharing.options client
  hash := sharing.hash
  parse text := .ok (sharing.parse text)

def start (sharing : Sharing κ) : SharedStore κ where
  clients client := { cache := (sharing.engine client).newCache }

/-- What a client is told when it saves its pending edit now. -/
def finishAnswer (sharing : Sharing κ) (shared : SharedStore κ) (client : κ) :
    Option (Except DocError Envelope) :=
  (shared.clients client).pending.map fun pending =>
    (((sharing.engine client).finishApply pending).outcome (shared.clients client).cache
      shared.memory).1.1

/-! ## Loads change nothing -/

theorem memory_outcome_readWithin (sharing : Sharing κ) (client : κ) (id : String)
    (selector : Selector) (cache : IndexCache) (memory : Memory) :
    (((sharing.engine client).readWithin id selector).outcome cache memory).2 = memory := by
  rw [Engine.outcome_readWithin]
  simp only [engine, Memory.store, Memory.run_load]
  cases memory.get? id <;> rfl

theorem memory_outcome_beginApply (sharing : Sharing κ) (client : κ) (id : String)
    (edit : DocEdit) (expected : Revision) (cache : IndexCache) (memory : Memory) :
    (((sharing.engine client).beginApply id edit expected).outcome cache memory).2 = memory := by
  rw [Engine.outcome_beginApply]
  simp only [engine, Memory.store, Memory.run_load]
  cases edit.op.checkPayload edit.text <;> cases memory.get? id <;> rfl

/-! ## Steps in any order -/

variable [DecidableEq κ]

/--
One step of a client.  In the middle of an edit a session does nothing else, and outside
of one there is nothing to be saved.
-/
def step (sharing : Sharing κ) (shared : SharedStore κ) : κ × ClientStep → SharedStore κ
  | (client, action) =>
    let engine := sharing.engine client
    let cache := (shared.clients client).cache
    let become := fun state => Function.update shared.clients client state
    match action, (shared.clients client).pending with
    | .insert id text, _ =>
      let (revision, memory) := shared.memory.insert sharing.hash id text
      { shared with memory, issues := ⟨id, text, revision⟩ :: shared.issues }
    | .openSession, none => { shared with clients := become { cache := engine.newCache } }
    | .read id selector, none =>
      let ((_, cache), memory) := (engine.readWithin id selector).outcome cache shared.memory
      { shared with memory, clients := become { cache } }
    | .beginApply id edit expected, none =>
      let ((answer, cache), memory) :=
        (engine.beginApply id edit expected).outcome cache shared.memory
      { shared with memory, clients := become ⟨cache, answer.toOption⟩ }
    | .finishApply, some pending =>
      let ((answer, cache), memory) := (engine.finishApply pending).outcome cache shared.memory
      let issues := match answer with
        | .ok envelope =>
          ⟨pending.id, pending.prepared.updated, envelope.newRevision⟩ :: shared.issues
        | .error _ => shared.issues
      { memory, clients := become { cache }, issues }
    | _, _ => shared

def run (sharing : Sharing κ) (steps : List (κ × ClientStep)) (shared : SharedStore κ) :
    SharedStore κ :=
  steps.foldl sharing.step shared

/-! ## What the steps do -/

section Steps

variable (sharing : Sharing κ) (shared : SharedStore κ)

theorem clients_step_of_ne {client other : κ} (hne : client ≠ other) (action : ClientStep) :
    (sharing.step shared (client, action)).clients other = shared.clients other := by
  cases action <;> cases hpending : (shared.clients client).pending <;>
    simp [step, hpending, Function.update_of_ne (Ne.symm hne)]

theorem step_finishApply {client : κ} {pending : PendingEdit}
    (hpending : (shared.clients client).pending = some pending) :
    let saved := (Memory.save sharing.hash pending.id pending.prepared.updated pending.expected
      fun _ _ => unifiedPatch pending.loaded.text pending.prepared.updated).run.run shared.memory
    (sharing.step shared (client, .finishApply)).memory = saved.2 ∧
      (sharing.step shared (client, .finishApply)).issues =
        match saved.1 with
        | .ok commit => ⟨pending.id, pending.prepared.updated, commit.revision⟩ :: shared.issues
        | .error _ => shared.issues := by
  simp only [step, hpending, Engine.outcome_finishApply, engine, Memory.store]
  rcases (Memory.save sharing.hash pending.id pending.prepared.updated pending.expected
    fun _ _ => unifiedPatch pending.loaded.text pending.prepared.updated).run.run shared.memory with
    ⟨fault | commit, memory⟩ <;> exact ⟨rfl, rfl⟩

end Steps

theorem suffix_issues_step (sharing : Sharing κ) (shared : SharedStore κ)
    (step : κ × ClientStep) : shared.issues <:+ (sharing.step shared step).issues := by
  obtain ⟨client, action⟩ := step
  cases hpending : (shared.clients client).pending with
  | none => cases action <;> simp [Sharing.step, hpending]
  | some pending =>
      cases action with
      | finishApply =>
          rw [(sharing.step_finishApply shared hpending).2]
          split <;> simp
      | _ => simp [Sharing.step, hpending]

theorem suffix_issues_run (sharing : Sharing κ) (steps : List (κ × ClientStep))
    (shared : SharedStore κ) : shared.issues <:+ (sharing.run steps shared).issues := by
  induction steps generalizing shared with
  | nil => exact List.suffix_rfl
  | cons step steps ih => exact (sharing.suffix_issues_step shared step).trans (ih _)

theorem clients_run_of_forall_ne (sharing : Sharing κ) {client : κ} (steps : List (κ × ClientStep))
    (hothers : ∀ step ∈ steps, step.1 ≠ client) (shared : SharedStore κ) :
    (sharing.run steps shared).clients client = shared.clients client := by
  induction steps generalizing shared with
  | nil => rfl
  | cons step steps ih =>
      rw [List.forall_mem_cons] at hothers
      exact (ih hothers.2 _).trans (sharing.clients_step_of_ne shared hothers.1 step.2)

/-! ## What every order of steps keeps -/

/-- The store is as its ledger says, and every session indexes the way its engine does. -/
structure Coherent (sharing : Sharing κ) (shared : SharedStore κ) : Prop where
  ledger : Memory.Ledger sharing.hash shared.issues shared.memory
  faithful : ∀ client, (shared.clients client).cache.Faithful (sharing.engine client)

omit [DecidableEq κ] in
theorem Coherent.start (sharing : Sharing κ) : Coherent sharing sharing.start :=
  ⟨.empty _, fun _ => .newCache _⟩

private theorem Coherent.become {sharing : Sharing κ} {shared : SharedStore κ}
    (coherent : Coherent sharing shared) (client : κ) {state : Client}
    (hstate : state.cache.Faithful (sharing.engine client)) (other : κ) :
    (Function.update shared.clients client state other).cache.Faithful (sharing.engine other) := by
  by_cases hother : other = client
  · subst hother
    simpa using hstate
  · simpa [hother] using coherent.faithful other

theorem Coherent.step {sharing : Sharing κ} {shared : SharedStore κ}
    (coherent : Coherent sharing shared) (client : κ) (action : ClientStep) :
    Coherent sharing (sharing.step shared (client, action)) := by
  have hcache := coherent.faithful client
  cases action with
  | insert id text => exact ⟨coherent.ledger.insert id text, coherent.faithful⟩
  | openSession =>
      cases hpending : (shared.clients client).pending with
      | none =>
          simp only [Sharing.step, hpending]
          exact ⟨coherent.ledger, coherent.become client (.newCache _)⟩
      | some pending => simpa [Sharing.step, hpending] using coherent
  | read id selector =>
      cases hpending : (shared.clients client).pending with
      | none =>
          simp only [Sharing.step, hpending, memory_outcome_readWithin]
          exact ⟨coherent.ledger, coherent.become client (hcache.readWithin _ _ _)⟩
      | some pending => simpa [Sharing.step, hpending] using coherent
  | beginApply id edit expected =>
      cases hpending : (shared.clients client).pending with
      | none =>
          simp only [Sharing.step, hpending, memory_outcome_beginApply]
          exact ⟨coherent.ledger, coherent.become client (hcache.beginApply _ _ _ _)⟩
      | some pending => simpa [Sharing.step, hpending] using coherent
  | finishApply =>
      cases hpending : (shared.clients client).pending with
      | none => simpa [Sharing.step, hpending] using coherent
      | some pending =>
          obtain ⟨hmemory, hissues⟩ := sharing.step_finishApply shared hpending
          refine ⟨?_, ?_⟩
          · rw [hmemory, hissues]
            exact coherent.ledger.save _ _ _ _
          · simp only [Sharing.step, hpending]
            exact coherent.become client (hcache.finishApply _ _)

theorem Coherent.run {sharing : Sharing κ} {shared : SharedStore κ}
    (coherent : Coherent sharing shared) (steps : List (κ × ClientStep)) :
    Coherent sharing (sharing.run steps shared) := by
  induction steps generalizing shared with
  | nil => exact coherent
  | cons step steps ih => exact ih (coherent.step step.1 step.2)

end Sharing

end Sections
