import Mathlib.Logic.Function.Iterate
import Sections.Proofs.Engine.Sharing

/-!
# Edits for one revision

Each of some callers makes one edit of the same document, in a session of its own, and all expect
the same revision.  An edit takes two steps, a load and a save, and anything may happen in between.

Once the document is past the expected revision no edit is saved any more.  Who has loaded before
that is told of a conflict.  Who loads later prepares its edit on the text that is there by then,
before the store gets to compare revisions: if that fails, the fault is another one.
-/

namespace Sections

/-- How far an edit has come. -/
inductive Attempt where
  | waiting
  | loaded (pending : PendingEdit) (cache : IndexCache)
  | answered (answer : Except DocError Envelope)

inductive Attempt.Bound (id : String) (expected : Revision) : Attempt → Prop
  | waiting : Bound id expected .waiting
  | loaded {pending : PendingEdit} (cache : IndexCache) (hid : pending.id = id)
      (hexpected : pending.expected = expected) : Bound id expected (.loaded pending cache)
  | answered (answer : Except DocError Envelope) : Bound id expected (.answered answer)

namespace Engine

variable {σ : Type} (engine : Engine σ) (id : String) (edit : DocEdit) (expected : Revision)

def advance : Attempt → σ → Attempt × σ
  | .waiting, state =>
    match (engine.beginApply id edit expected).outcome engine.newCache state with
    | ((.ok pending, cache), state) => (.loaded pending cache, state)
    | ((.error fault, _), state) => (.answered (.error fault), state)
  | .loaded pending cache, state =>
    let finished := (engine.finishApply pending).outcome cache state
    (.answered finished.1.1, finished.2)
  | .answered answer, state => (.answered answer, state)

theorem advance_waiting (state : σ) :
    engine.advance id edit expected .waiting state =
      match (engine.beginApply id edit expected).outcome engine.newCache state with
      | ((.ok pending, cache), state) => (.loaded pending cache, state)
      | ((.error fault, _), state) => (.answered (.error fault), state) := rfl

theorem advance_loaded (pending : PendingEdit) (cache : IndexCache) (state : σ) :
    engine.advance id edit expected (.loaded pending cache) state =
      (.answered ((engine.finishApply pending).outcome cache state).1.1,
        ((engine.finishApply pending).outcome cache state).2) := rfl

theorem advance_advance (state : σ) :
    engine.advance id edit expected (engine.advance id edit expected .waiting state).1
        (engine.advance id edit expected .waiting state).2 =
      (.answered ((engine.apply id edit expected).run.run state).1,
        ((engine.apply id edit expected).run.run state).2) := by
  have halone : (engine.apply id edit expected).run.run state =
      (((engine.applyWithin id edit expected).outcome engine.newCache state).1.1,
        ((engine.applyWithin id edit expected).outcome engine.newCache state).2) := rfl
  rw [halone, applyWithin, SessionM.outcome_bind, advance_waiting]
  rcases (engine.beginApply id edit expected).outcome engine.newCache state with
    ⟨⟨fault | pending, cache⟩, state'⟩ <;> rfl

end Engine

/-- Callers that share a store, with an edit of each, all of one document and for one revision. -/
structure Contest (κ : Type) extends Sharing κ where
  id : String
  expected : Revision
  edits : κ → DocEdit

namespace Contest

variable {κ : Type} (contest : Contest κ)

def advance (caller : κ) : Attempt → Memory → Attempt × Memory :=
  (contest.engine caller).advance contest.id (contest.edits caller) contest.expected

def alone (caller : κ) (memory : Memory) : Except DocError Envelope × Memory :=
  ((contest.engine caller).apply contest.id (contest.edits caller) contest.expected).run.run memory

def prepareOn (caller : κ) (text : String) : Except DocError PreparedEdit :=
  (contest.edits caller).prepare (.ofText contest.parse (contest.options caller) text) text

def progress (caller : κ) (memory : Memory) (count : Nat) : Attempt → Attempt :=
  (fun attempt => (contest.advance caller attempt memory).1)^[count]

section Steps

variable {contest} {caller : κ} {memory : Memory}

/-! ## One step -/

theorem advance_waiting_of_get? {loaded : Snapshot} (hget : memory.get? contest.id = some loaded)
    (hpayload : (contest.edits caller).op.checkPayload (contest.edits caller).text = .ok ()) :
    ∃ cache, contest.advance caller .waiting memory =
      (match contest.prepareOn caller loaded.text with
        | .ok prepared =>
          .loaded ⟨contest.id, contest.edits caller, contest.expected, loaded, prepared⟩ cache
        | .error fault => .answered (.error fault), memory) := by
  have hindex := (IndexCache.Faithful.newCache (contest.engine caller)).fst_indexFor
    contest.hash loaded.text
  refine ⟨((contest.engine caller).newCache.indexFor contest.hash loaded.text).2, ?_⟩
  rw [advance, Engine.advance_waiting, Engine.outcome_beginApply, hpayload]
  simp only [Sharing.engine, Memory.store, Memory.run_load, hget, Index.read_total] at hindex ⊢
  rw [hindex, Except.bind, prepareOn]
  cases (contest.edits caller).prepare
    (.ofText contest.parse (contest.options caller) loaded.text) loaded.text <;> rfl

theorem advance_waiting_bound (contest : Contest κ) (caller : κ) (memory : Memory) :
    (contest.advance caller .waiting memory).2 = memory ∧
      (contest.advance caller .waiting memory).1.Bound contest.id contest.expected := by
  cases hpayload : (contest.edits caller).op.checkPayload (contest.edits caller).text with
  | error fault =>
      rw [advance, Engine.advance_waiting, Engine.outcome_beginApply, hpayload]
      exact ⟨rfl, .answered _⟩
  | ok =>
      cases hget : memory.get? contest.id with
      | none =>
          rw [advance, Engine.advance_waiting, Engine.outcome_beginApply, hpayload]
          simp only [Sharing.engine, Memory.store, Memory.run_load, hget]
          exact ⟨trivial, .answered _⟩
      | some loaded =>
          obtain ⟨cache, hload⟩ := advance_waiting_of_get? hget hpayload
          rw [hload]
          refine ⟨rfl, ?_⟩
          split
          · exact .loaded cache rfl rfl
          · exact .answered _

theorem advance_loaded_of_moved {pending : PendingEdit} {current : Snapshot}
    (hget : memory.get? pending.id = some current) (hmoved : current.revision ≠ pending.expected)
    (cache : IndexCache) :
    contest.advance caller (.loaded pending cache) memory =
      (.answered (.error (.revisionConflict current.revision)), memory) := by
  rw [advance, Engine.advance_loaded, Engine.outcome_finishApply]
  simp only [Sharing.engine, Memory.store, Memory.run_save, hget, if_neg hmoved]
  rfl

theorem advance_bound (caller : κ) {current : Snapshot}
    (hget : memory.get? contest.id = some current) (hmoved : current.revision ≠ contest.expected)
    {attempt : Attempt} (hbound : attempt.Bound contest.id contest.expected) :
    (contest.advance caller attempt memory).2 = memory ∧
      (contest.advance caller attempt memory).1.Bound contest.id contest.expected := by
  cases hbound with
  | waiting => exact advance_waiting_bound contest caller memory
  | loaded cache hid hexpected =>
      rw [← hid] at hget
      rw [← hexpected] at hmoved
      rw [advance_loaded_of_moved hget hmoved]
      exact ⟨rfl, .answered _⟩
  | answered answer => exact ⟨rfl, .answered answer⟩

theorem advance_advance_waiting (contest : Contest κ) (caller : κ) (memory : Memory) :
    contest.advance caller (contest.advance caller .waiting memory).1 memory =
      (.answered (contest.alone caller memory).1, (contest.alone caller memory).2) := by
  have hsave := (contest.engine caller).advance_advance contest.id (contest.edits caller)
    contest.expected memory
  rwa [show ((contest.engine caller).advance contest.id (contest.edits caller) contest.expected
    .waiting memory).2 = memory from (advance_waiting_bound contest caller memory).1] at hsave

theorem alone_eq {text : String} (hget : memory.get? contest.id = some ⟨text, contest.expected⟩)
    (hpayload : (contest.edits caller).op.checkPayload (contest.edits caller).text = .ok ()) :
    contest.alone caller memory =
      match contest.prepareOn caller text with
      | .error fault => (.error fault, memory)
      | .ok prepared =>
        let edit := contest.edits caller
        let inserted := memory.insert contest.hash contest.id prepared.updated
        (.ok ⟨contest.id, contest.expected, inserted.1,
          [⟨edit.selector, edit.op, some prepared.spanned, edit.text⟩],
          unifiedPatch text prepared.updated⟩, inserted.2) := by
  have hsave := advance_advance_waiting contest caller memory
  obtain ⟨cache, hload⟩ := advance_waiting_of_get? hget hpayload
  rw [hload] at hsave
  cases hprepare : contest.prepareOn caller text with
  | error fault =>
      simp only [hprepare, advance, Engine.advance, Prod.mk.injEq, Attempt.answered.injEq] at hsave
      exact Prod.ext hsave.1.symm hsave.2.symm
  | ok prepared =>
      simp only [hprepare, advance, Engine.advance_loaded, Engine.outcome_finishApply,
        Sharing.engine, Memory.store, Memory.run_save, hget, if_true, Prod.mk.injEq,
        Attempt.answered.injEq] at hsave
      exact Prod.ext hsave.1.symm hsave.2.symm

theorem inv_alone_ok {text : String}
    (hget : memory.get? contest.id = some ⟨text, contest.expected⟩) {envelope : Envelope}
    {after : Memory} (hok : contest.alone caller memory = (.ok envelope, after)) :
    (contest.edits caller).op.checkPayload (contest.edits caller).text = .ok () ∧
      ∃ prepared, contest.prepareOn caller text = .ok prepared ∧
        envelope.newRevision = (memory.insert contest.hash contest.id prepared.updated).1 ∧
        after.get? contest.id = some ⟨prepared.updated, envelope.newRevision⟩ := by
  cases hpayload : (contest.edits caller).op.checkPayload (contest.edits caller).text with
  | error fault =>
      have hsave := advance_advance_waiting contest caller memory
      rw [hok, advance, Engine.advance_waiting, Engine.outcome_beginApply, hpayload] at hsave
      simp [Engine.advance] at hsave
  | ok =>
      rw [alone_eq hget hpayload] at hok
      cases hprepare : contest.prepareOn caller text with
      | error fault => simp [hprepare] at hok
      | ok prepared =>
          rw [hprepare] at hok
          cases hok
          refine ⟨rfl, prepared, rfl, rfl, ?_⟩
          rw [Memory.get?_insert, if_pos rfl]

/-! ## Many steps -/

@[simp] theorem progress_answered (count : Nat) (answer : Except DocError Envelope) :
    contest.progress caller memory count (.answered answer) = .answered answer :=
  Function.iterate_fixed rfl count

theorem progress_succ (count : Nat) (attempt : Attempt) :
    contest.progress caller memory (count + 1) attempt =
      contest.progress caller memory count (contest.advance caller attempt memory).1 :=
  Function.iterate_succ_apply _ count attempt

theorem progress_loaded {current : Snapshot} {pending : PendingEdit}
    (hget : memory.get? pending.id = some current) (hmoved : current.revision ≠ pending.expected)
    (cache : IndexCache) {count : Nat} (hcount : 1 ≤ count) :
    contest.progress caller memory count (.loaded pending cache) =
      .answered (.error (.revisionConflict current.revision)) := by
  obtain ⟨later, rfl⟩ := Nat.exists_eq_add_of_le' hcount
  rw [progress_succ, advance_loaded_of_moved hget hmoved, progress_answered]

theorem progress_waiting {current : Snapshot} (hget : memory.get? contest.id = some current)
    (hmoved : current.revision ≠ contest.expected)
    (hpayload : (contest.edits caller).op.checkPayload (contest.edits caller).text = .ok ())
    {count : Nat} (hcount : 2 ≤ count) :
    contest.progress caller memory count .waiting =
      .answered (.error
        (match contest.prepareOn caller current.text with
          | .ok _ => .revisionConflict current.revision
          | .error fault => fault)) := by
  obtain ⟨later, rfl⟩ := Nat.exists_eq_add_of_le' hcount
  obtain ⟨cache, hload⟩ := advance_waiting_of_get? hget hpayload
  rw [show later + 2 = later + 1 + 1 from rfl, progress_succ, hload]
  cases contest.prepareOn caller current.text with
  | ok prepared => exact progress_loaded hget hmoved cache (Nat.le_add_left 1 later)
  | error fault => exact progress_answered (later + 1) _

end Steps

end Contest

end Sections
