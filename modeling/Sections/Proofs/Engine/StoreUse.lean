import Sections.Proofs.Engine.Preparation
import Sections.Proofs.Engine.Reuse
import Sections.Store.Recorded

/-!
# What an edit asks of the store

Whatever the store is, an edit loads once and then saves at most once.  It saves only what it has
made of the text that was loaded, and the way to write the patch that it hands over knows both of
these texts already: it does not look at those that the store gives it.
-/

namespace Sections

/-- A use of a store, with all that is handed over. -/
inductive StoreUse where
  | load (id : String)
  | save (id text : String) (expected : Revision) (writePatch : PatchWriter)

/-- The same store with a list of the uses made of it, the last one last, beside its state. -/
def Store.watched {σ : Type} (store : Store σ) : Store (σ × List StoreUse) where
  load id := recorded.record (.load id) (store.load id)
  save id text expected writePatch :=
    recorded.record (.save id text expected writePatch) (store.save id text expected writePatch)

section Watched

variable {σ : Type} (store : Store σ) (id : String) (state : σ) (uses : List StoreUse)

theorem Store.run_load_watched :
    (store.watched.load id).run.run (state, uses) =
      (((store.load id).run.run state).1, ((store.load id).run.run state).2,
        uses ++ [.load id]) := rfl

theorem Store.run_save_watched (text : String) (expected : Revision) (writePatch : PatchWriter) :
    (store.watched.save id text expected writePatch).run.run (state, uses) =
      (((store.save id text expected writePatch).run.run state).1,
        ((store.save id text expected writePatch).run.run state).2,
        uses ++ [.save id text expected writePatch]) := rfl

end Watched

def Engine.watching {σ : Type} (engine : Engine σ) : Engine (σ × List StoreUse) :=
  { engine with store := engine.store.watched }

variable {σ : Type}

/-- What an edit makes of a text, with the part of the text that it stands for. -/
def DocEdit.Makes (edit : DocEdit) (engine : Engine σ) (text spanned updated : String) : Prop :=
  ∃ index span, Index.read engine.parse engine.options text = .ok index ∧
    resolveSpan index edit.selector text.utf8ByteSize = .ok span ∧
    span.slice text = .ok spanned ∧
    (SpanEdit.mk edit.op span edit.text).applyTo text = .ok updated

/-- Why an edit of a text cannot be made: the text has no index, or the selector no region. -/
inductive DocEdit.Fails (edit : DocEdit) (engine : Engine σ) (text : String) : DocError → Prop
  | unindexed {fault : DocError}
      (hindex : Index.read engine.parse engine.options text = .error fault) :
      Fails edit engine text fault
  | unresolved {fault : DocError} {index : Index}
      (hindex : Index.read engine.parse engine.options text = .ok index)
      (hspan : resolveSpan index edit.selector text.utf8ByteSize = .error fault) :
      Fails edit engine text fault
  | unspliced {fault : DocError} {index : Index} {span : Span}
      (hindex : Index.read engine.parse engine.options text = .ok index)
      (hspan : resolveSpan index edit.selector text.utf8ByteSize = .ok span)
      (hsplice : (SpanEdit.mk edit.op span edit.text).applyTo text = .error fault) :
      Fails edit engine text fault

/-- All that an edit can come to: its answer, the state it leaves and the uses it makes. -/
inductive DocEdit.Course (edit : DocEdit) (engine : Engine σ) (id : String) (expected : Revision)
    (state : σ) : Except DocError Envelope → σ → List StoreUse → Prop
  | unfit {fault : DocError} (hpayload : edit.op.checkPayload edit.text = .error fault) :
      Course edit engine id expected state (.error fault) state []
  | unloaded {fault : DocError} {after : σ}
      (hpayload : edit.op.checkPayload edit.text = .ok ())
      (hload : (engine.store.load id).run.run state = (.error fault, after)) :
      Course edit engine id expected state (.error fault) after [.load id]
  | unmade {fault : DocError} {loaded : Snapshot} {after : σ}
      (hpayload : edit.op.checkPayload edit.text = .ok ())
      (hload : (engine.store.load id).run.run state = (.ok loaded, after))
      (hfails : edit.Fails engine loaded.text fault) :
      Course edit engine id expected state (.error fault) after [.load id]
  | unsaved {fault : DocError} {loaded : Snapshot} {spanned updated : String} {between after : σ}
      {writePatch : PatchWriter} (hpayload : edit.op.checkPayload edit.text = .ok ())
      (hload : (engine.store.load id).run.run state = (.ok loaded, between))
      (hmakes : edit.Makes engine loaded.text spanned updated)
      (hpatch : ∀ old new, writePatch old new = unifiedPatch loaded.text updated)
      (hsave : (engine.store.save id updated expected writePatch).run.run between =
        (.error fault, after)) :
      Course edit engine id expected state (.error fault) after
        [.load id, .save id updated expected writePatch]
  | saved {commit : Commit} {loaded : Snapshot} {spanned updated : String} {between after : σ}
      {writePatch : PatchWriter} (hpayload : edit.op.checkPayload edit.text = .ok ())
      (hload : (engine.store.load id).run.run state = (.ok loaded, between))
      (hmakes : edit.Makes engine loaded.text spanned updated)
      (hpatch : ∀ old new, writePatch old new = unifiedPatch loaded.text updated)
      (hsave : (engine.store.save id updated expected writePatch).run.run between =
        (.ok commit, after)) :
      Course edit engine id expected state
        (.ok ⟨id, expected, commit.revision,
          [⟨edit.selector, edit.op, some spanned, edit.text⟩], commit.patch⟩) after
        [.load id, .save id updated expected writePatch]

namespace DocEdit

variable {edit : DocEdit} {engine : Engine σ} {text : String} {index : Index}

theorem applyTo_eq_error_of_slice {span : Span} {fault : DocError}
    (hpayload : edit.op.checkPayload edit.text = .ok ()) (hslice : span.slice text = .error fault) :
    (SpanEdit.mk edit.op span edit.text).applyTo text = .error fault := by
  unfold Span.slice at hslice
  split at hslice
  · cases hslice
  · next hsplit =>
      cases hslice
      simp only [SpanEdit.applyTo, hpayload, hsplit]
      rfl

theorem fails_of_prepare (hindex : Index.read engine.parse engine.options text = .ok index)
    (hpayload : edit.op.checkPayload edit.text = .ok ()) {fault : DocError}
    (hprepare : edit.prepare index text = .error fault) : edit.Fails engine text fault := by
  rcases inv_bind_error hprepare with hspan | ⟨span, hspan, hprepare⟩
  · exact .unresolved hindex hspan
  rcases inv_bind_error hprepare with hslice | ⟨spanned, hslice, hprepare⟩
  · exact .unspliced hindex hspan (applyTo_eq_error_of_slice hpayload hslice)
  rcases inv_bind_error hprepare with hsplice | ⟨updated, hsplice, hprepare⟩
  · exact .unspliced hindex hspan hsplice
  · cases hprepare

theorem makes_of_prepare (hindex : Index.read engine.parse engine.options text = .ok index)
    {prepared : PreparedEdit} (hprepare : edit.prepare index text = .ok prepared) :
    edit.Makes engine text prepared.spanned prepared.updated := by
  obtain ⟨span, hspan, hslice, hsplice⟩ := inv_prepare hprepare
  exact ⟨index, span, hindex, hspan, hslice, hsplice⟩

/--
However a store behaves, an edit in a session that has made any calls before goes one of
the ways listed.
-/
theorem apply_course (engine : Engine σ) (first : σ) (earlier : List ((σ → σ) × SessionCall))
    (id : String) (edit : DocEdit) (expected : Revision) (state : σ) :
    let cache := (engine.callsWithin engine.newCache first earlier).1.2
    let applied := (engine.watching.applyWithin id edit expected).outcome cache (state, [])
    edit.Course engine id expected state applied.1.1 applied.2.1 applied.2.2 := by
  intro cache applied
  obtain ⟨cache', hcalls, hfaithful⟩ :=
    Engine.callsWithin_eq_alone (.newCache engine) first earlier
  obtain rfl : cache = cache' := by simp only [cache, hcalls]
  simp only [applied, Engine.applyWithin, SessionM.outcome_bind, Engine.outcome_beginApply,
    Engine.watching, Store.run_load_watched, hfaithful.fst_indexFor]
  cases hpayload : edit.op.checkPayload edit.text with
  | error fault => exact .unfit hpayload
  | ok =>
      rcases hload : (engine.store.load id).run.run state with ⟨fault | loaded, between⟩
      · exact .unloaded hpayload hload
      · dsimp only
        cases hindex : Index.read engine.parse engine.options loaded.text with
        | error fault => exact .unmade hpayload hload (.unindexed hindex)
        | ok index =>
            dsimp only [Except.bind]
            cases hprepare : edit.prepare index loaded.text with
            | error fault =>
                exact .unmade hpayload hload (fails_of_prepare hindex hpayload hprepare)
            | ok prepared =>
                have hmakes := makes_of_prepare hindex hprepare
                simp only [Except.map, Engine.outcome_finishApply, Store.run_save_watched]
                rcases hsave : (engine.store.save id prepared.updated expected
                  fun _ _ => unifiedPatch loaded.text prepared.updated).run.run between with
                  ⟨fault | commit, after⟩
                · exact .unsaved hpayload hload hmakes (fun _ _ => rfl) hsave
                · exact .saved hpayload hload hmakes (fun _ _ => rfl) hsave

end DocEdit

end Sections
