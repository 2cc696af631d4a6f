import Sections.Proofs.Engine.Cache

/-!
# Steps of a session

What a step of a session answers, and what it leaves behind, in terms of the calls that it makes to
the store.  A read and the first half of an edit load once; the second half of an edit saves once.
-/

namespace Sections

namespace SessionM

variable {σ α β : Type} (cache : IndexCache) (state : σ)

def outcome (step : SessionM σ α) (cache : IndexCache) (state : σ) :
    (Except DocError α × IndexCache) × σ :=
  (step.run.run cache).run state

@[simp] theorem outcome_pure (value : α) :
    (pure value : SessionM σ α).outcome cache state = ((.ok value, cache), state) := rfl

theorem outcome_bind (step : SessionM σ α) (next : α → SessionM σ β) :
    (step >>= next).outcome cache state =
      match step.outcome cache state with
      | ((.error fault, cache), state) => ((.error fault, cache), state)
      | ((.ok value, cache), state) => (next value).outcome cache state := by
  change (ExceptT.bindCont next (step.outcome cache state).1.1
    (step.outcome cache state).1.2).run (step.outcome cache state).2 = _
  rcases step.outcome cache state with ⟨⟨fault | value, cache'⟩, state'⟩ <;> rfl

@[simp] theorem outcome_ofExcept (answer : Except DocError α) :
    (MonadExcept.ofExcept answer : SessionM σ α).outcome cache state =
      ((answer, cache), state) := by
  cases answer <;> rfl

@[simp] theorem outcome_callStore (step : StoreM σ α) :
    (Engine.callStore step).outcome cache state =
      (((step.run.run state).1, cache), (step.run.run state).2) := rfl

@[simp] theorem outcome_indexFor (engine : Engine σ) (text : String) :
    (engine.indexFor text).outcome cache state = (cache.indexFor engine.hash text, state) := rfl

end SessionM

namespace Engine

open SessionM

variable {σ : Type} (engine : Engine σ) (id : String) (cache : IndexCache) (state : σ)

theorem outcome_readWithin (selector : Selector) :
    (engine.readWithin id selector).outcome cache state =
      match (engine.store.load id).run.run state with
      | (.error fault, state) => ((.error fault, cache), state)
      | (.ok snapshot, state) =>
        let (index, cache) := cache.indexFor engine.hash snapshot.text
        (((index.bind fun index => selector.extract index snapshot.text).map fun region =>
          ⟨region.1, region.2, snapshot.revision⟩, cache), state) := by
  simp only [readWithin, outcome_bind, outcome_callStore, outcome_indexFor, outcome_ofExcept]
  rcases (engine.store.load id).run.run state with ⟨fault | snapshot, state'⟩
  · rfl
  · dsimp only
    rcases cache.indexFor engine.hash snapshot.text with ⟨fault | index, cache'⟩
    · rfl
    · dsimp only [Except.bind]
      cases selector.extract index snapshot.text <;> rfl

theorem outcome_beginApply (edit : DocEdit) (expected : Revision) :
    (engine.beginApply id edit expected).outcome cache state =
      match edit.op.checkPayload edit.text with
      | .error fault => ((.error fault, cache), state)
      | .ok () =>
        match (engine.store.load id).run.run state with
        | (.error fault, state) => ((.error fault, cache), state)
        | (.ok snapshot, state) =>
          let (index, cache) := cache.indexFor engine.hash snapshot.text
          (((index.bind fun index => edit.prepare index snapshot.text).map fun prepared =>
            ⟨id, edit, expected, snapshot, prepared⟩, cache), state) := by
  simp only [beginApply, outcome_bind, outcome_callStore, outcome_indexFor, outcome_ofExcept]
  cases edit.op.checkPayload edit.text with
  | error fault => rfl
  | ok =>
      dsimp only
      rcases (engine.store.load id).run.run state with ⟨fault | snapshot, state'⟩
      · rfl
      · dsimp only
        rcases cache.indexFor engine.hash snapshot.text with ⟨fault | index, cache'⟩
        · rfl
        · dsimp only [Except.bind]
          cases edit.prepare index snapshot.text <;> rfl

theorem outcome_finishApply (pending : PendingEdit) :
    (engine.finishApply pending).outcome cache state =
      let (answer, state) := (engine.store.save pending.id pending.prepared.updated pending.expected
        fun _ _ => unifiedPatch pending.loaded.text pending.prepared.updated).run.run state
      ((answer.map fun commit => ⟨pending.id, pending.expected, commit.revision,
        [⟨pending.edit.selector, pending.edit.op, some pending.prepared.spanned,
          pending.edit.text⟩],
        commit.patch⟩, cache), state) := by
  simp only [finishApply, outcome_bind, outcome_callStore]
  rcases (engine.store.save pending.id pending.prepared.updated pending.expected
    fun _ _ => unifiedPatch pending.loaded.text pending.prepared.updated).run.run state with
    ⟨fault | commit, state'⟩ <;> rfl

end Engine

/-! ## Caches stay faithful -/

namespace IndexCache

variable {σ : Type} {engine : Engine σ} {cache : IndexCache}

theorem Faithful.readWithin (faithful : Faithful engine cache) (id : String) (selector : Selector)
    (state : σ) :
    Faithful engine ((engine.readWithin id selector).outcome cache state).1.2 := by
  rw [Engine.outcome_readWithin]
  rcases (engine.store.load id).run.run state with ⟨fault | snapshot, state'⟩
  · exact faithful
  · exact faithful.snd_indexFor engine.hash snapshot.text

theorem Faithful.beginApply (faithful : Faithful engine cache) (id : String) (edit : DocEdit)
    (expected : Revision) (state : σ) :
    Faithful engine ((engine.beginApply id edit expected).outcome cache state).1.2 := by
  rw [Engine.outcome_beginApply]
  cases edit.op.checkPayload edit.text with
  | error fault => exact faithful
  | ok =>
      dsimp only
      rcases (engine.store.load id).run.run state with ⟨fault | snapshot, state'⟩
      · exact faithful
      · exact faithful.snd_indexFor engine.hash snapshot.text

theorem Faithful.finishApply (faithful : Faithful engine cache) (pending : PendingEdit)
    (state : σ) :
    Faithful engine ((engine.finishApply pending).outcome cache state).1.2 := by
  rw [Engine.outcome_finishApply]
  exact faithful

end IndexCache

end Sections
