import Sections.Proofs.Index.Resolve
import Sections.Proofs.Outcome
import Sections.Proofs.Text.Boundary

/-!
# Entries that can be cut out

Where the ranges of all nodes begin and end at character boundaries, so do the entries of the index:
a section ends where another node begins or where the text ends.
-/

namespace Sections

namespace Node

/-- Whether the ranges of a node and of all nodes below it begin and end at character boundaries. -/
def OnBoundaries (text : String) (document : Node) : Prop :=
  ∀ node ∈ document.preorder, ∀ source ∈ node.range,
    IsBoundary text ((LineIndex.ofText text).offset source.start) ∧
      IsBoundary text ((LineIndex.ofText text).offset source.stop)

instance (text : String) (document : Node) : Decidable (document.OnBoundaries text) :=
  inferInstanceAs (Decidable (∀ node ∈ document.preorder, ∀ source ∈ node.range, _))

mutual

theorem visited_subset_preorder : (node : Node) → node.visited ⊆ node.preorder
  | .mk kind range children => by
      have hbelow := visitedAll_subset_preorderAll children
      unfold visited preorder
      refine List.cons_subset_cons _ ?_
      cases kind <;> first | exact List.nil_subset _ | exact hbelow

theorem visitedAll_subset_preorderAll : (nodes : List Node) →
    visitedAll nodes ⊆ preorderAll nodes
  | [] => List.Subset.refl _
  | node :: rest => by
      unfold visitedAll preorderAll
      exact List.append_subset.mpr
        ⟨List.subset_append_of_subset_left _ (visited_subset_preorder node),
          List.subset_append_of_subset_right _ (visitedAll_subset_preorderAll rest)⟩

end

theorem range_of_landmark? {options : IndexOptions} {node : Node} {mark : Landmark}
    (hmark : node.landmark? options = some mark) : node.range = some mark.source := by
  obtain ⟨kind, range, children⟩ := node
  cases kind <;>
    simp only [landmark?, Option.ite_none_right_eq_some, Option.map_eq_some_iff, reduceCtorEq]
      at hmark <;>
    grind [Node.range]

theorem isBoundary_of_mem_landmarks {text : String} {document : Node} {options : IndexOptions}
    (hdocument : document.OnBoundaries text) {mark : Landmark}
    (hmark : mark ∈ document.landmarks options) :
    IsBoundary text ((LineIndex.ofText text).span mark.source).start ∧
      IsBoundary text ((LineIndex.ofText text).span mark.source).stop := by
  obtain ⟨node, hnode, hmark⟩ := List.mem_filterMap.mp hmark
  obtain ⟨hstart, hstop⟩ := hdocument node (visited_subset_preorder document hnode) mark.source
    (range_of_landmark? hmark)
  exact ⟨hstart, hstop.max hstart⟩

end Node

namespace Index

variable {document : Node} {text : String} {options : IndexOptions} {path : SlugPath} {span : Span}

theorem mem_entries_iff :
    (path, span) ∈ (build document text options).entries ↔
      (build document text options).get? path = some span :=
  (PathTable.get?_eq_some_iff (nodup_paths document text options)).symm

theorem exists_placement_of_get? (hspan : (build document text options).get? path = some span) :
    ∃ earlier entry later, placements document text options = earlier ++ entry :: later ∧
      entry.path = path ∧ entry.mark.extent (.ofText text) later = span := by
  have hpath : path ∈ (build document text options).paths :=
    List.mem_map_of_mem (mem_entries_iff.mpr hspan)
  obtain ⟨earlier, entry, later, hsplit, rfl⟩ := exists_placement_of_mem_paths hpath
  rw [get?_build hsplit, Option.some.injEq] at hspan
  exact ⟨earlier, entry, later, hsplit, rfl, hspan⟩

theorem within_of_get? (hspan : (build document text options).get? path = some span) :
    span.Within text.utf8ByteSize := by
  obtain ⟨-, entry, later, -, -, rfl⟩ := exists_placement_of_get? hspan
  exact entry.mark.extent_within (.ofText text) later

theorem isBoundary_of_mem_placements (hdocument : document.OnBoundaries text) {entry : Placement}
    (hentry : entry ∈ placements document text options) :
    IsBoundary text ((LineIndex.ofText text).span entry.mark.source).start ∧
      IsBoundary text ((LineIndex.ofText text).span entry.mark.source).stop := by
  have hmark : entry.mark ∈ document.landmarks options := by
    rw [← map_mark_placements document text options]
    exact List.mem_map_of_mem hentry
  exact Node.isBoundary_of_mem_landmarks hdocument hmark

theorem isBoundary_of_get? (hdocument : document.OnBoundaries text)
    (hspan : (build document text options).get? path = some span) :
    IsBoundary text span.start ∧ IsBoundary text span.stop := by
  obtain ⟨earlier, entry, later, hsplit, -, rfl⟩ := exists_placement_of_get? hspan
  obtain ⟨hstart, hstop⟩ := isBoundary_of_mem_placements hdocument
    (show entry ∈ placements document text options by simp [hsplit])
  unfold Landmark.extent
  split
  · split
    · next next hnext =>
        have hlater : next ∈ later := List.mem_of_find?_eq_some hnext
        have hplaced : next ∈ placements document text options := by simp [hsplit, hlater]
        exact ⟨hstart, (isBoundary_of_mem_placements hdocument hplaced).1.max hstart⟩
    · exact ⟨hstart, isBoundary_utf8ByteSize text⟩
  · exact ⟨hstart, hstop⟩

theorem slice_isOk_of_get? (hdocument : document.OnBoundaries text)
    (hspan : (build document text options).get? path = some span) : (span.slice text).isOk := by
  rw [Span.slice_isOk_iff]
  exact ⟨(within_of_get? hspan).1, isBoundary_of_get? hdocument hspan⟩

theorem heading?_build {entry : Placement} (hentry : entry ∈ placements document text options)
    (hheading : entry.mark.isHeading) :
    (build document text options).heading? entry.path =
      some ⟨entry.mark.source, (LineIndex.ofText text).span entry.mark.source⟩ := by
  have hperm := headings_build document text options
  have hnodup : (build document text options).headings.paths.Nodup := by
    have hpaths := hperm.map Prod.fst
    rw [List.map_map] at hpaths
    exact hpaths.nodup_iff.mpr ((nodup_placements document text options).sublist
      (List.filter_sublist.map _))
  refine (PathTable.get?_eq_some_iff hnodup).mpr (hperm.mem_iff.mpr ?_)
  exact List.mem_map_of_mem (List.mem_filter.mpr ⟨hentry, hheading⟩)

theorem exists_placement_of_mem_headings
    (hpath : path ∈ (build document text options).headings.paths) :
    ∃ entry ∈ placements document text options, entry.mark.isHeading ∧ entry.path = path := by
  have hpaths := ((headings_build document text options).map Prod.fst).subset hpath
  simp only [List.map_map, List.mem_map, List.mem_filter, Function.comp_apply] at hpaths
  obtain ⟨entry, ⟨hentry, hheading⟩, hpath⟩ := hpaths
  exact ⟨entry, hentry, hheading, hpath⟩

theorem exists_placement_of_heading? {declaration : HeadingDeclaration}
    (hdeclared : (build document text options).heading? path = some declaration) :
    ∃ entry ∈ placements document text options, entry.mark.isHeading ∧ entry.path = path := by
  refine exists_placement_of_mem_headings ?_
  by_contra hnone
  have hlookup : (build document text options).heading? path = none :=
    lookup_eq_none_of_notMem hnone
  rw [hlookup] at hdeclared
  cases hdeclared

theorem placement_eq_of_path_eq {entry other : Placement}
    (hentry : entry ∈ placements document text options)
    (hother : other ∈ placements document text options) (hpath : entry.path = other.path) :
    entry = other :=
  List.inj_on_of_nodup_map (nodup_placements document text options) hentry hother hpath

theorem heading?_of_leaf {entry : Placement} (hentry : entry ∈ placements document text options)
    (hleaf : entry.mark.isHeading = false) :
    (build document text options).heading? entry.path = none := by
  by_contra hdeclared
  obtain ⟨declaration, hdeclared⟩ := Option.ne_none_iff_exists'.mp hdeclared
  obtain ⟨heading, hmem, hheading, hsame⟩ := exists_placement_of_heading? hdeclared
  rw [placement_eq_of_path_eq hmem hentry hsame, hleaf] at hheading
  cases hheading

theorem sectionBody?_isSome (hdocument : document.OnBoundaries text)
    (hpath : path ∈ (build document text options).headings.paths) :
    ((build document text options).sectionBody? path text).isSome := by
  obtain ⟨entry, hentry, hheading, rfl⟩ := exists_placement_of_mem_headings hpath
  obtain ⟨earlier, later, hsplit⟩ := List.append_of_mem hentry
  have hspan := get?_build hsplit
  generalize entry.mark.extent (.ofText text) later = span at hspan
  have hbytes := isBoundary_of_mem_placements hdocument hentry
  obtain ⟨-, hstop⟩ := isBoundary_of_get? hdocument hspan
  have hbody : ((Span.mk (min ((LineIndex.ofText text).span entry.mark.source).stop span.stop)
      span.stop).slice text).isOk := by
    rw [Span.slice_isOk_iff]
    exact ⟨Nat.min_le_right _ _, hbytes.2.min hstop, hstop⟩
  obtain ⟨body, hslice⟩ := exists_ok_of_isOk hbody
  simp [sectionBody?, heading?_build hentry hheading, hspan, hslice, Except.toOption]

end Index

end Sections
