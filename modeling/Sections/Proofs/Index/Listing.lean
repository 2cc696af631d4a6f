import Mathlib.Data.String.Basic
import Sections.Proofs.Index.Boundaries
import Sections.Proofs.Index.Naming
import Sections.Proofs.OrderedEntries
import Sections.Proofs.Wire

/-!
# The list of all paths

The paths of an index are made of slug texts, so they stay apart when they are joined, and each has
its own member in the list.  The path that asks for the list is none of them, nor does one lie below
it.
-/

namespace Sections

namespace Index

variable {document : Node} {text : String} {options : IndexOptions}

theorem everything_notMem_segments {path : SlugPath}
    (hpath : path ∈ (build document text options).paths) : SlugPath.everything ∉ path.segments :=
  fun hmem => absurd (isSlugText_of_mem_segments hpath hmem) (by decide)

theorem introspection_notMem_paths : .introspection ∉ (build document text options).paths :=
  fun hpath => everything_notMem_segments hpath List.mem_cons_self

theorem joined_injOn {path other : SlugPath} (hpath : path ∈ (build document text options).paths)
    (hother : other ∈ (build document text options).paths) (h : path.joined = other.joined) :
    path = other := by
  have hslash {path : SlugPath} (hpath : path ∈ (build document text options).paths) :
      ∀ segment ∈ path.segments, '/' ∉ segment.toList :=
    fun _ hsegment => (isSlugText_of_mem_segments hpath hsegment).slash_notMem
  have hroot {path : SlugPath} (hpath : path ∈ (build document text options).paths) :
      path ≠ .root := by
    rintro rfl
    exact root_notMem_paths hpath
  exact SlugPath.eq_of_joined_eq (hslash hpath) (hroot hpath) (hslash hother) (hroot hother) h

def members (index : Index) : List (String × Json) :=
  index.entries.map fun (path, span) => (path.joined, span.toJson)

theorem nodup_members (document : Node) (text : String) (options : IndexOptions) :
    ((build document text options).members.map Prod.fst).Nodup := by
  have hjoined : (build document text options).members.map Prod.fst =
      (build document text options).paths.map SlugPath.joined := by
    rw [members, List.map_map, paths, PathTable.paths, List.map_map]
    rfl
  rw [hjoined]
  exact (nodup_paths document text options).map_on fun _ hpath _ hother => joined_injOn hpath hother

theorem render_eq (index : Index) :
    index.render = (Json.ofMembers (orderEntries index.members)).compact := rfl

theorem read?_render (hlength : text.utf8ByteSize ≤ largestWord) :
    Json.read? (build document text options).render =
      some (.ofMembers (orderEntries (build document text options).members)) := by
  rw [render_eq]
  refine Json.read?_compact (.object ?_)
  intro member hmember
  obtain ⟨⟨name, value⟩, hentry, rfl⟩ := List.mem_map.mp hmember
  have hlisted := (orderEntries_perm (nodup_members document text options)).subset hentry
  obtain ⟨⟨path, span⟩, hspan, heq⟩ := List.mem_map.mp hlisted
  cases heq
  obtain ⟨hstart, hstop⟩ := within_of_get? (mem_entries_iff.mp hspan)
  exact Span.lossless.inWords ⟨by omega, by omega⟩

/-! ## The path of the list -/

theorem taggedBlock?_introspection (field : Option String) (range : Option Span) :
    taggedBlock? (build document text options) ⟨.introspection, field, range⟩ = none := by
  cases field with
  | none => rfl
  | some field =>
      by_cases hfield : slugify field = ""
      · simp [taggedBlock?, hfield]
      · rw [taggedBlock?_eq _ _ hfield]
        refine get?_eq_none ?_
        intro hpath
        exact everything_notMem_segments hpath List.mem_cons_self

theorem resolveSpan_introspection (field : Option String) (range : Option Span) (length : Nat) :
    resolveSpan (build document text options) ⟨.introspection, field, range⟩ length =
      match range with
      | some range => range.checked length
      | none => .error (.selectorMiss "*") := by
  rw [resolveSpan, taggedBlock?_introspection]
  simp only [get?_eq_none introspection_notMem_paths]
  rfl

/--
The paths of a document are made of slug texts, and their joined forms keep them apart.  So the list
has a member with the span of each entry and no other member, in the order of the names.  The path
that asks for the list reaches no entry, whatever field stands beside it.
-/
theorem listing_loses_nothing (document : Node) (text : String) (options : IndexOptions) :
    let index := build document text options
    (∀ path ∈ index.paths, path ≠ .root ∧ path ≠ .introspection ∧
      ∀ segment ∈ path.segments, IsSlugText segment) ∧
    (∀ path ∈ index.paths, ∀ other ∈ index.paths, path.joined = other.joined → path = other) ∧
    (∃ members, index.render = (Json.ofMembers members).compact ∧
      (text.utf8ByteSize ≤ largestWord → Json.read? index.render = some (.ofMembers members)) ∧
      members.Pairwise (·.1 < ·.1) ∧
      members.Perm (index.entries.map fun (path, span) => (path.joined, span.toJson))) ∧
    ∀ field length,
      resolveSpan index ⟨.introspection, field, none⟩ length = .error (.selectorMiss "*") ∧
      ∀ range : Span, resolveSpan index ⟨.introspection, field, some range⟩ length =
        if range.start ≤ range.stop ∧ range.stop ≤ length then .ok range
        else .error (.rangeOutOfBounds range.start range.stop length) := by
  intro index
  refine ⟨?_, fun path hpath other hother => joined_injOn hpath hother, ?_, ?_⟩
  · intro path hpath
    refine ⟨?_, ?_, fun segment hsegment => isSlugText_of_mem_segments hpath hsegment⟩
    · rintro rfl
      exact root_notMem_paths hpath
    · rintro rfl
      exact introspection_notMem_paths hpath
  · exact ⟨_, index.render_eq, read?_render, pairwise_orderEntries _,
      orderEntries_perm (nodup_members document text options)⟩
  · intro field length
    refine ⟨resolveSpan_introspection field none length, ?_⟩
    intro range
    rw [resolveSpan_introspection]
    exact range.checked_eq length

example :
    let document := Node.ofLines [.heading 1 "A", .heading 2 "B", .heading 1 "A b"]
    let index := build document "# A\n## B\n# A b\n" .bare
    index.paths = [⟨["a"]⟩, ⟨["a", "b"]⟩, ⟨["a-b"]⟩] ∧
      (orderEntries index.members).map Prod.fst = ["a", "a-b", "a/b"] := by
  decide

end Index

end Sections
