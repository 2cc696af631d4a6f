import Sections.Proofs.Engine.Preparation
import Sections.Proofs.Engine.Reading
import Sections.Proofs.Engine.Reuse
import Sections.Proofs.Splice
import Sections.Proofs.Store.Ledger

/-!
# Reading and editing one region

A read and an edit find the region of a selector in two ways: only a read can be answered with the
list of all paths.  For every other path the two find the same region, or fail for the same reason.
So what a read has shown can be edited, as long as the document stays as it was.
-/

namespace Sections

/-! ## One text -/

section

variable {index : Index} {selector : Selector} {text : String}

theorem Selector.extract_of_ne (hpath : selector.path ≠ .introspection) (index : Index)
    (text : String) :
    selector.extract index text =
      (resolveSpan index selector text.utf8ByteSize).bind fun span =>
        (span.slice text).map fun part => (part, span) := by
  have hlisting : selector.path.isIntrospection = false := by
    rw [SlugPath.isIntrospection, beq_eq_false_iff_ne]
    intro hsegments
    exact hpath (congrArg SlugPath.mk hsegments)
  simp only [extract, resolve, hlisting, Bool.false_eq_true, if_false]
  cases resolveSpan index selector text.utf8ByteSize with
  | error fault => rfl
  | ok span =>
      simp only [Except.map, bind, Except.bind]
      cases span.slice text <;> rfl

variable {edit : DocEdit}

theorem DocEdit.prepare_of_extract (hpath : edit.selector.path ≠ .introspection)
    (hfits : edit.op.Fits edit.text) {part : String} {span : Span}
    (hextract : edit.selector.extract index text = .ok (part, span)) :
    ∃ front written back, span.Cuts text front part back ∧
      edit.op.Writes edit.text part written ∧
      edit.prepare index text = .ok ⟨part, front ++ written ++ back⟩ := by
  rw [Selector.extract_of_ne hpath] at hextract
  obtain ⟨found, hspan, hextract⟩ := inv_bind_ok hextract
  obtain ⟨shown, hslice, hshown⟩ := inv_map_ok hextract
  obtain ⟨rfl, rfl⟩ : shown = part ∧ found = span := by simpa using hshown
  obtain ⟨front, back, hcuts⟩ := Span.slice_eq_ok_iff.mp hslice
  obtain ⟨written, hwrites⟩ := hfits.exists_writes shown
  exact ⟨front, written, back, hcuts, hwrites,
    prepare_eq_ok hspan hslice (SpanEdit.applyTo_of_cuts hcuts hwrites)⟩

theorem DocEdit.prepare_of_extract_error (hpath : edit.selector.path ≠ .introspection)
    {fault : DocError} (hextract : edit.selector.extract index text = .error fault) :
    edit.prepare index text = .error fault := by
  rw [Selector.extract_of_ne hpath] at hextract
  rcases inv_bind_error hextract with hspan | ⟨span, hspan, hextract⟩
  · exact prepare_eq_error hspan
  · have hslice : span.slice text = .error fault := by
      cases hslice : span.slice text with
      | error other =>
          rw [hslice] at hextract
          cases hextract
          rfl
      | ok part =>
          rw [hslice] at hextract
          cases hextract
    rw [prepare, hspan]
    simp only [bind, Except.bind, hslice]

end

/-! ## One state of a store -/

theorem Engine.run_apply {σ : Type} (engine : Engine σ) (id : String) {edit : DocEdit}
    (hfits : edit.op.Fits edit.text) (expected : Revision) (state : σ) :
    (engine.apply id edit expected).run.run state =
      match (engine.store.load id).run.run state with
      | (.error fault, state) => (.error fault, state)
      | (.ok snapshot, state) =>
        match (Index.read engine.parse engine.options snapshot.text).bind fun index =>
            edit.prepare index snapshot.text with
        | .error fault => (.error fault, state)
        | .ok prepared =>
          let (answer, state) := (engine.store.save id prepared.updated expected
            fun _ _ => unifiedPatch snapshot.text prepared.updated).run.run state
          let change : Change := ⟨edit.selector, edit.op, some prepared.spanned, edit.text⟩
          (answer.map fun commit => ⟨id, expected, commit.revision, [change], commit.patch⟩,
            state) := by
  have halone : (engine.apply id edit expected).run.run state =
      (((engine.applyWithin id edit expected).outcome engine.newCache state).1.1,
        ((engine.applyWithin id edit expected).outcome engine.newCache state).2) := rfl
  rw [halone, applyWithin, SessionM.outcome_bind, outcome_beginApply,
    EditOp.checkPayload_eq_ok_iff.mpr hfits]
  dsimp only
  rcases (engine.store.load id).run.run state with ⟨fault | snapshot, state'⟩
  · rfl
  · dsimp only
    rw [← (IndexCache.Faithful.newCache engine).fst_indexFor engine.hash]
    cases ((engine.newCache.indexFor engine.hash snapshot.text).1.bind fun index =>
      edit.prepare index snapshot.text) with
    | error fault => rfl
    | ok prepared =>
        simp only [Except.map, outcome_finishApply]
        rfl

/-! ## The store in memory -/

namespace Memory

variable {hash : TextHash} {parse : TextParser} {options : IndexOptions} {memory : Memory}
  {id : String}

def engine (hash : TextHash) (parse : TextParser) (options : IndexOptions) : Engine Memory :=
  { store := store hash, options, hash, parse }

theorem run_read (hash : TextHash) (parse : TextParser) (options : IndexOptions)
    (memory : Memory) (id : String) (selector : Selector) :
    ((engine hash parse options).read id selector).run.run memory =
      (match memory.get? id with
        | none => .error (.notFound id)
        | some snapshot =>
          ((Index.read parse options snapshot.text).bind fun index =>
            selector.extract index snapshot.text).map fun region =>
              ⟨region.1, region.2, snapshot.revision⟩, memory) := by
  rw [Engine.run_read]
  simp only [engine, store, run_load]
  cases memory.get? id <;> rfl

theorem run_apply_of_current (hash : TextHash) {text : String} {expected : Revision}
    (hget : memory.get? id = some ⟨text, expected⟩) {edit : DocEdit}
    (hfits : edit.op.Fits edit.text) {index : Index}
    (hindex : Index.read parse options text = .ok index) {prepared : PreparedEdit}
    (hprepare : edit.prepare index text = .ok prepared) :
    ((engine hash parse options).apply id edit expected).run.run memory =
      (.ok ⟨id, expected, (insert hash id prepared.updated memory).1,
        [⟨edit.selector, edit.op, some prepared.spanned, edit.text⟩],
        unifiedPatch text prepared.updated⟩, (insert hash id prepared.updated memory).2) := by
  rw [Engine.run_apply _ _ hfits]
  simp only [engine, store, run_load, hget, hindex, Except.bind, hprepare, run_save, if_true]
  rfl

theorem run_apply_of_read_error (edit : DocEdit) (hpath : edit.selector.path ≠ .introspection)
    (hfits : edit.op.Fits edit.text) {fault : DocError}
    (hread : (((engine hash parse options).read id edit.selector).run.run memory).1 = .error fault)
    (expected : Revision) :
    ((engine hash parse options).apply id edit expected).run.run memory =
      (.error fault, memory) := by
  rw [run_read] at hread
  rw [Engine.run_apply _ _ hfits]
  simp only [engine, store, run_load]
  cases hget : memory.get? id with
  | none =>
      rw [hget] at hread
      cases hread
      rfl
  | some snapshot =>
      rw [hget] at hread
      dsimp only at hread ⊢
      cases hindex : Index.read parse options snapshot.text with
      | error other =>
          rw [hindex] at hread
          cases hread
          rfl
      | ok index =>
          rw [hindex] at hread
          have hextract : edit.selector.extract index snapshot.text = .error fault := by
            cases hextract : edit.selector.extract index snapshot.text with
            | error other => simpa [Except.bind, Except.map, hextract] using hread
            | ok region => simp [Except.bind, Except.map, hextract] at hread
          simp only [Except.bind, DocEdit.prepare_of_extract_error hpath hextract]

theorem run_apply_of_read (edit : DocEdit) (hpath : edit.selector.path ≠ .introspection)
    (hfits : edit.op.Fits edit.text) {slice : Slice}
    (hread : (((engine hash parse options).read id edit.selector).run.run memory).1 = .ok slice) :
    ∃ text front written back, memory.get? id = some ⟨text, slice.revision⟩ ∧
      slice.span.Cuts text front slice.text back ∧ edit.op.Writes edit.text slice.text written ∧
      let updated := front ++ written ++ back
      ((engine hash parse options).apply id edit slice.revision).run.run memory =
        (.ok ⟨id, slice.revision, (insert hash id updated memory).1,
          [⟨edit.selector, edit.op, some slice.text, edit.text⟩], unifiedPatch text updated⟩,
          (insert hash id updated memory).2) := by
  rw [run_read] at hread
  cases hget : memory.get? id with
  | none =>
      rw [hget] at hread
      cases hread
  | some snapshot =>
      rw [hget] at hread
      dsimp only at hread
      obtain ⟨⟨part, span⟩, hregion, rfl⟩ := inv_map_ok hread
      obtain ⟨index, hindex, hextract⟩ := inv_bind_ok hregion
      obtain ⟨front, written, back, hcuts, hwrites, hprepare⟩ :=
        DocEdit.prepare_of_extract hpath hfits hextract
      have hcurrent : memory.get? id = some ⟨snapshot.text, snapshot.revision⟩ := hget
      have hrun := run_apply_of_current hash hcurrent hfits hindex hprepare
      exact ⟨snapshot.text, front, written, back, rfl, hcuts, hwrites, hrun⟩

end Memory

/-! ## Sessions -/

namespace Engine

variable {σ α : Type} {engine : Engine σ}

/-- What a step answers in a session that has made some calls, and the store after it. -/
def inSession (engine : Engine σ) (first : σ) (earlier : List ((σ → σ) × SessionCall))
    (step : SessionM σ α) (state : σ) : Except DocError α × σ :=
  let outcome := step.outcome (engine.callsWithin engine.newCache first earlier).1.2 state
  (outcome.1.1, outcome.2)

theorem inSession_eq_alone {step : SessionM σ α} (hstep : Transparent engine step) (first : σ)
    (earlier : List ((σ → σ) × SessionCall)) (state : σ) :
    engine.inSession first earlier step state = (engine.alone step).run.run state := by
  obtain ⟨cache, hcalls, hcache⟩ := callsWithin_eq_alone (.newCache engine) first earlier
  obtain ⟨cache', hrun, -⟩ := hstep.outcome_eq_alone hcache state
  simp only [inSession, hcalls, hrun]
  rfl

end Engine

/--
A read and an edit of one selector are made in sessions that have made any calls: in one session,
with other calls in between, or in two.  The store is the same for both.  Then the read leaves it as
it is.  If a region was read, the edit for the revision that was read succeeds: it reports the text
that was shown, writes at the span that was shown, and touches nothing else.  If the read fails, the
edit fails in the same way for every revision and leaves the store as it is.
-/
theorem edit_reaches_region_that_was_read (hash : TextHash) (parse : TextParser)
    (options : IndexOptions) (first second memory : Memory)
    (earlier later : List ((Memory → Memory) × SessionCall)) (id : String) (selector : Selector)
    (op : EditOp) (payload : Option String) (hpath : selector.path ≠ .introspection)
    (hfits : op.Fits payload) :
    let engine := Memory.engine hash parse options
    let read := engine.inSession first earlier (engine.readWithin id selector) memory
    let edited := fun expected =>
      engine.inSession second later (engine.applyWithin id ⟨op, selector, payload⟩ expected) memory
    read.2 = memory ∧
      (∀ slice, read.1 = .ok slice → ∃ text front written back envelope,
        memory.get? id = some ⟨text, slice.revision⟩ ∧
        slice.span.Cuts text front slice.text back ∧ op.Writes payload slice.text written ∧
        (edited slice.revision).1 = .ok envelope ∧
        envelope.changes.map Change.oldText = [some slice.text] ∧
        (edited slice.revision).2.get? id = some ⟨front ++ written ++ back, envelope.newRevision⟩ ∧
        ∀ other, other ≠ id → (edited slice.revision).2.get? other = memory.get? other) ∧
      ∀ fault, read.1 = .error fault →
        ∀ expected, edited expected = (.error fault, memory) := by
  intro engine read edited
  have hread : read = (engine.read id selector).run.run memory :=
    Engine.inSession_eq_alone (.readWithin id selector) first earlier memory
  have hedited (expected : Revision) : edited expected =
      (engine.apply id ⟨op, selector, payload⟩ expected).run.run memory :=
    Engine.inSession_eq_alone (.applyWithin id ⟨op, selector, payload⟩ expected) second later memory
  rw [hread]
  refine ⟨?_, ?_, ?_⟩
  · rw [Memory.run_read]
  · intro slice hslice
    obtain ⟨text, front, written, back, hget, hcuts, hwrites, hrun⟩ :=
      Memory.run_apply_of_read ⟨op, selector, payload⟩ hpath hfits hslice
    rw [hedited, hrun]
    refine ⟨text, front, written, back, _, hget, hcuts, hwrites, rfl, rfl, ?_, ?_⟩
    · rw [Memory.get?_insert, if_pos rfl]
    · intro other hother
      rw [Memory.get?_insert, if_neg hother]
  · intro fault hfault expected
    rw [hedited]
    exact Memory.run_apply_of_read_error ⟨op, selector, payload⟩ hpath hfits hfault expected

theorem tagged_block_is_read_and_edited :
    let document := Node.ofLines [.heading 1 "Guide", .code (some "Rust")]
    let engine := Memory.engine (fun _ => 0) (fun _ => .ok document) {}
    let memory := (Memory.insert (fun _ => 0) "doc" "# Guide\nlet é\n" {}).2
    let selector : Selector := ⟨⟨["guide"]⟩, some "rust", some ⟨0, 1⟩⟩
    let read := engine.inSession memory [(id, .read "doc" .introspection)]
      (engine.readWithin "doc" selector) memory
    let edited := fun expected =>
      engine.inSession memory [(id, .read "doc" .introspection), (id, .read "doc" selector)]
        (engine.applyWithin "doc" ⟨.insert, selector, some "→"⟩ expected) memory
    selector.path ≠ .introspection ∧ EditOp.insert.Fits (some "→") ∧
      ∃ slice, read.1 = .ok slice ∧ ∃ text front written back envelope,
        memory.get? "doc" = some ⟨text, slice.revision⟩ ∧
        slice.span.Cuts text front slice.text back ∧
        EditOp.insert.Writes (some "→") slice.text written ∧
        (edited slice.revision).1 = .ok envelope ∧
        envelope.changes.map Change.oldText = [some slice.text] ∧
        (edited slice.revision).2.get? "doc" =
          some ⟨front ++ written ++ back, envelope.newRevision⟩ ∧
        ∀ other, other ≠ "doc" → (edited slice.revision).2.get? other = memory.get? other := by
  intro document engine memory selector read edited
  have hpath : selector.path ≠ .introspection := by decide
  have hfits : EditOp.insert.Fits (some "→") := by simp [EditOp.Fits]
  obtain ⟨slice, hslice⟩ : ∃ slice, read.1 = .ok slice := exists_ok_of_isOk (by decide)
  obtain ⟨-, hshown, -⟩ := edit_reaches_region_that_was_read (fun _ => 0) (fun _ => .ok document) {}
    memory memory memory [(id, .read "doc" .introspection)]
    [(id, .read "doc" .introspection), (id, .read "doc" selector)] "doc" selector .insert
    (some "→") hpath hfits
  exact ⟨hpath, hfits, slice, hslice, hshown slice hslice⟩

end Sections
