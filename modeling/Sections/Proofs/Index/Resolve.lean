import Sections.Proofs.Index.Build
import Sections.Resolve

/-!
# Resolution in the index of a document

All spans of an index lie within the text it was made of, so a selector whose path is in the index
always has a region.  The whole document is in no index; a bare range stands for itself.
-/

namespace Sections

theorem Landmark.extent_within (lines : LineIndex) (mark : Landmark) (later : List Placement) :
    (mark.extent lines later).Within lines.length := by
  have hstart := lines.start_span_le_length mark.source
  unfold extent
  split
  · split
    · next next _ =>
        exact ⟨Nat.le_max_right _ _,
          Nat.max_le.mpr ⟨lines.start_span_le_length next.mark.source, hstart⟩⟩
    · exact ⟨hstart, Nat.le_refl _⟩
  · exact lines.span_within mark.source

namespace Index

variable {document : Node} {text : String} {options : IndexOptions} {path : SlugPath}

theorem exists_placement_of_mem_paths (hpath : path ∈ (build document text options).paths) :
    ∃ earlier entry later, placements document text options = earlier ++ entry :: later ∧
      entry.path = path := by
  obtain ⟨entry, hentry, rfl⟩ := List.mem_map.mp ((paths_build document text options).subset hpath)
  obtain ⟨earlier, later, hsplit⟩ := List.append_of_mem hentry
  exact ⟨earlier, entry, later, hsplit, rfl⟩

theorem root_notMem_paths : .root ∉ (build document text options).paths := by
  intro hroot
  obtain ⟨earlier, entry, later, hsplit, hpath⟩ := exists_placement_of_mem_paths hroot
  obtain ⟨slug, hchild⟩ := enclosed_build hsplit
  have hlength := congrArg SlugPath.length (hchild.symm.trans hpath)
  rw [SlugPath.length_child] at hlength
  cases hlength

theorem exists_get?_of_mem_paths (hpath : path ∈ (build document text options).paths) :
    ∃ span, (build document text options).get? path = some span ∧
      span.Within text.utf8ByteSize := by
  obtain ⟨earlier, entry, later, hsplit, rfl⟩ := exists_placement_of_mem_paths hpath
  exact ⟨_, get?_build hsplit, entry.mark.extent_within (.ofText text) later⟩

theorem get?_eq_none (hpath : path ∉ (build document text options).paths) :
    (build document text options).get? path = none :=
  lookup_eq_none_of_notMem hpath

end Index

def Node.ofLines (kinds : List NodeKind) : Node :=
  .mk .document none <| kinds.zipIdx.map fun (kind, line) =>
    .mk kind (some ⟨⟨line + 1, 1⟩, ⟨line + 2, 1⟩⟩) []

/-! ## Selectors -/

section Selectors

variable {document : Node} {text : String} {options : IndexOptions}

theorem resolveSpan_ofPath {path : SlugPath} {span : Span}
    (hspan : (Index.build document text options).get? path = some span)
    (hwithin : span.Within text.utf8ByteSize) :
    resolveSpan (.build document text options) (.ofPath path) text.utf8ByteSize = .ok span := by
  have htagged : taggedBlock? (.build document text options) (.ofPath path) = none := rfl
  rw [resolveSpan, htagged]
  simp only [Selector.ofPath, hspan]
  exact Span.checked_of_within hwithin

theorem taggedBlock?_eq (index : Index) (path : SlugPath) {field : String}
    (hfield : slugify field ≠ "") (range : Option Span) :
    taggedBlock? index ⟨path, some field, range⟩ =
      index.get? (path.child ("code-" ++ slugify field)) := by
  simp [taggedBlock?, hfield]

theorem resolveSpan_of_field {index : Index} {path : SlugPath} {field : String} {span : Span}
    {length : Nat} (hfield : slugify field ≠ "")
    (hspan : index.get? (path.child ("code-" ++ slugify field)) = some span)
    (hwithin : span.Within length) (range : Option Span) :
    resolveSpan index ⟨path, some field, range⟩ length = .ok span := by
  rw [resolveSpan, taggedBlock?_eq index path hfield range, hspan]
  exact Span.checked_of_within hwithin

theorem resolveSpan_ofRange (start stop length : Nat) :
    resolveSpan (.build document text options) (.ofRange start stop) length =
      (Span.mk start stop).checked length := by
  have htagged : taggedBlock? (.build document text options) (.ofRange start stop) = none := rfl
  rw [resolveSpan, htagged]
  simp only [Selector.ofRange, Index.get?_eq_none Index.root_notMem_paths]

end Selectors

end Sections
