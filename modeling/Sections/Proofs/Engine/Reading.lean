import Sections.Proofs.Engine.Session
import Sections.Proofs.Index.Boundaries
import Sections.Store.Memory

/-!
# Listed paths can be read

What a path of an index stands for lies within the text, and only an explicit range can be out of
bounds.  If all nodes begin and end at character boundaries a read of a listed path succeeds.
-/

namespace Sections

theorem exists_get?_of_taggedBlock? {index : Index} {selector : Selector} {span : Span}
    (htagged : taggedBlock? index selector = some span) : ∃ path, index.get? path = some span := by
  obtain ⟨field, -, htagged⟩ := Option.bind_eq_some_iff.mp htagged
  rw [Option.ite_none_left_eq_some] at htagged
  exact ⟨_, htagged.2⟩

theorem Span.eq_of_checked_eq_error {span : Span} {length : Nat} {fault : DocError}
    (hchecked : span.checked length = .error fault) :
    fault = .rangeOutOfBounds span.start span.stop length := by
  rw [checked_eq] at hchecked
  split at hchecked
  · cases hchecked
  · cases hchecked
    rfl

section

variable {document : Node} {text : String} {options : IndexOptions} {selector : Selector}

theorem range_eq_of_rangeOutOfBounds {start stop length : Nat}
    (hresolve : resolveSpan (.build document text options) selector text.utf8ByteSize =
      .error (.rangeOutOfBounds start stop length)) :
    taggedBlock? (.build document text options) selector = none ∧
      (Index.build document text options).get? selector.path = none ∧
      selector.range = some ⟨start, stop⟩ := by
  unfold resolveSpan at hresolve
  split at hresolve
  · next span htagged =>
      obtain ⟨path, hspan⟩ := exists_get?_of_taggedBlock? htagged
      rw [Span.checked_of_within (Index.within_of_get? hspan)] at hresolve
      cases hresolve
  · next htagged =>
      split at hresolve
      · next span hspan =>
          rw [Span.checked_of_within (Index.within_of_get? hspan)] at hresolve
          cases hresolve
      · next hnone =>
          split at hresolve
          · next range hrange =>
              cases Span.eq_of_checked_eq_error hresolve
              exact ⟨htagged, hnone, hrange⟩
          · cases hresolve

theorem exists_resolveSpan_of_mem_paths
    (hpath : selector.path ∈ (Index.build document text options).paths) :
    ∃ path span, (Index.build document text options).get? path = some span ∧
      resolveSpan (.build document text options) selector text.utf8ByteSize = .ok span := by
  unfold resolveSpan
  split
  · next span htagged =>
      obtain ⟨path, hspan⟩ := exists_get?_of_taggedBlock? htagged
      exact ⟨path, span, hspan, Span.checked_of_within (Index.within_of_get? hspan)⟩
  · obtain ⟨span, hspan, hwithin⟩ := Index.exists_get?_of_mem_paths hpath
    rw [hspan]
    exact ⟨selector.path, span, hspan, Span.checked_of_within hwithin⟩

theorem extract_isOk (hdocument : document.OnBoundaries text)
    (hpath : selector.path ∈ (Index.build document text options).paths) :
    (selector.extract (.build document text options) text).isOk := by
  unfold Selector.extract resolve
  split
  · rfl
  · obtain ⟨path, span, hspan, hresolve⟩ := exists_resolveSpan_of_mem_paths hpath
    obtain ⟨part, hslice⟩ := exists_ok_of_isOk (Index.slice_isOk_of_get? hdocument hspan)
    rw [hresolve]
    simp only [Except.map, bind, Except.bind, hslice]
    rfl

end

theorem Engine.run_read {σ : Type} (engine : Engine σ) (id : String) (selector : Selector)
    (state : σ) :
    (engine.read id selector).run.run state =
      match (engine.store.load id).run.run state with
      | (.error fault, state) => (.error fault, state)
      | (.ok snapshot, state) =>
        (((Index.read engine.parse engine.options snapshot.text).bind fun index =>
          selector.extract index snapshot.text).map fun region =>
            ⟨region.1, region.2, snapshot.revision⟩, state) := by
  have halone : (engine.read id selector).run.run state =
      (((engine.readWithin id selector).outcome engine.newCache state).1.1,
        ((engine.readWithin id selector).outcome engine.newCache state).2) := rfl
  rw [halone, outcome_readWithin]
  rcases (engine.store.load id).run.run state with ⟨fault | snapshot, state'⟩
  · rfl
  · dsimp only
    rw [← (IndexCache.Faithful.newCache engine).fst_indexFor engine.hash]

/--
Every entry of an index lies within the text, and a selector goes out of bounds only by a
range of its own.  If all nodes begin and end at character boundaries, every entry can be cut out,
every section has a body, and every selector with a listed path can be read from any store that
holds the text.
-/
theorem indexed_paths_are_readable (document : Node) (text : String) (options : IndexOptions) :
    (∀ entry ∈ (Index.build document text options).entries, entry.2.Within text.utf8ByteSize) ∧
      (∀ selector start stop length,
        resolveSpan (.build document text options) selector text.utf8ByteSize =
            .error (.rangeOutOfBounds start stop length) →
          taggedBlock? (.build document text options) selector = none ∧
            (Index.build document text options).get? selector.path = none ∧
            selector.range = some ⟨start, stop⟩) ∧
      (document.OnBoundaries text →
        (∀ entry ∈ (Index.build document text options).entries, (entry.2.slice text).isOk) ∧
          (∀ path ∈ (Index.build document text options).headings.paths,
            ((Index.build document text options).sectionBody? path text).isSome) ∧
          ∀ {σ : Type} (engine : Engine σ) (state : σ) (id : String) (revision : Revision)
            (selector : Selector), engine.options = options → engine.parse text = .ok document →
            ((engine.store.load id).run.run state).1 = .ok ⟨text, revision⟩ →
            selector.path ∈ (Index.build document text options).paths →
            ((engine.read id selector).run.run state).1.isOk) := by
  refine ⟨?_, fun _ _ _ _ hresolve => range_eq_of_rangeOutOfBounds hresolve, ?_⟩
  · intro entry hentry
    exact Index.within_of_get? (Index.mem_entries_iff.mp hentry)
  · intro hdocument
    refine ⟨?_, fun path hpath => Index.sectionBody?_isSome hdocument hpath, ?_⟩
    · intro entry hentry
      exact Index.slice_isOk_of_get? hdocument (Index.mem_entries_iff.mp hentry)
    · intro σ engine state id revision selector hoptions hparse hload hpath
      have hindex : Index.read engine.parse engine.options text =
          .ok (.build document text options) := by
        rw [Index.read, hparse, hoptions]
        rfl
      obtain ⟨region, hregion⟩ := exists_ok_of_isOk (extract_isOk hdocument hpath)
      rw [Engine.run_read]
      rcases hloaded : (engine.store.load id).run.run state with ⟨answer, state'⟩
      rw [hloaded] at hload
      obtain rfl : answer = .ok ⟨text, revision⟩ := hload
      simp only [hindex, Except.bind, hregion]
      rfl

theorem backward_section_can_be_read :
    let document : Node := .mk .document none
      [.mk (.heading 1 "Cafés") (some ⟨⟨2, 1⟩, ⟨1, 1⟩⟩) [],
        .mk (.code none) (some ⟨⟨9, 9⟩, ⟨1, 3⟩⟩) [],
        .mk (.heading 2 "Bars") (some ⟨⟨1, 3⟩, ⟨1, 5⟩⟩) []]
    let text := "# é\nA\n"
    let engine : Engine Memory :=
      { store := Memory.store fun _ => 0, parse := fun _ => .ok document }
    let memory := (Memory.insert (fun _ => 0) "doc" text {}).2
    document.OnBoundaries text ∧
      (Index.build document text .bare).paths =
        [⟨["caf-s"]⟩, ⟨["caf-s", "bars"]⟩, ⟨["caf-s", "code"]⟩] ∧
      ((engine.read "doc" (.ofPath ⟨["caf-s", "bars"]⟩)).run.run memory).1.isOk := by
  intro document text engine memory
  have hdocument : document.OnBoundaries text := by decide
  have hpaths : (Index.build document text .bare).paths =
      [⟨["caf-s"]⟩, ⟨["caf-s", "bars"]⟩, ⟨["caf-s", "code"]⟩] := by decide
  refine ⟨hdocument, hpaths, ?_⟩
  obtain ⟨-, -, hreadable⟩ := indexed_paths_are_readable document text .bare
  obtain ⟨-, -, hread⟩ := hreadable hdocument
  refine hread engine memory "doc" (Memory.revisionFor (fun _ => 0) 1 text) _ rfl rfl rfl ?_
  rw [hpaths]
  simp [Selector.ofPath]

end Sections
