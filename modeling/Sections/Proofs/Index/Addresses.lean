import Sections.Proofs.Index.Naming
import Sections.Proofs.Index.Resolve
import Sections.Proofs.Selector

/-!
# The listed paths as addresses

A listed path is printed and typed back as a selector.  It then stands for its own section unless it
has an empty segment, and that comes from headings alone: a title without a letter or a digit has
the empty slug, where a code block without a language is called `code`.
-/

namespace Sections

namespace Index

variable {document : Node} {text : String} {options : IndexOptions}

theorem exists_empty_segment (text : String) {mark : Landmark}
    (hmark : mark ∈ document.landmarks options) (hempty : mark.base = "") :
    ∃ path ∈ (build document text options).paths, "" ∈ path.segments := by
  rw [← map_mark_placements document text options] at hmark
  obtain ⟨entry, hentry, rfl⟩ := List.mem_map.mp hmark
  obtain ⟨earlier, later, hsplit⟩ := List.append_of_mem hentry
  obtain ⟨holder, hholder, hpath⟩ := List.mem_map.mp (child_base_mem hsplit)
  have hplaced : holder ∈ placements document text options := by
    rw [hsplit]
    simp only [List.mem_append, List.mem_cons, List.not_mem_nil, or_false] at hholder ⊢
    exact hholder.imp_right .inl
  refine ⟨holder.path,
    (paths_build document text options).symm.subset (List.mem_map_of_mem hplaced), ?_⟩
  rw [hpath, hempty]
  simp [SlugPath.child]

theorem read_joined_of_mem_paths {path : SlugPath}
    (hpath : path ∈ (build document text options).paths) :
    Selector.read path.joined = .ok (.ofPath ⟨path.segments.filter (· != "")⟩) :=
  Selector.read_joined fun _ hsegment => isSlugText_of_mem_segments hpath hsegment

theorem read_joined_eq_self_iff {path : SlugPath}
    (hpath : path ∈ (build document text options).paths) :
    Selector.read path.joined = .ok (.ofPath path) ↔ "" ∉ path.segments := by
  obtain ⟨segments⟩ := path
  rw [read_joined_of_mem_paths hpath]
  simp [Selector.ofPath, List.filter_eq_self, List.forall_mem_ne']

/--
A listed path that is typed back loses its empty segments.  Where it has none it stands
for its own section, and the paths of a document all do so if every recorded heading has a title
with a slug of its own, and only then.
-/
theorem listed_paths_read_back (document : Node) (text : String) (options : IndexOptions) :
    (∀ path ∈ (build document text options).paths,
      Selector.read path.joined = .ok (.ofPath ⟨path.segments.filter (· != "")⟩) ∧
        (Selector.read path.joined = .ok (.ofPath path) ↔ "" ∉ path.segments) ∧
        ("" ∉ path.segments → ∃ span, (build document text options).get? path = some span ∧
          (Selector.read path.joined >>= fun selector =>
            resolveSpan (build document text options) selector text.utf8ByteSize) = .ok span)) ∧
      ((∀ path ∈ (build document text options).paths,
        Selector.read path.joined = .ok (.ofPath path)) ↔
        ∀ mark ∈ document.landmarks options, mark.isHeading → mark.base ≠ "") := by
  constructor
  · intro path hpath
    refine ⟨read_joined_of_mem_paths hpath, read_joined_eq_self_iff hpath, ?_⟩
    intro hsegments
    obtain ⟨span, hspan, hwithin⟩ := exists_get?_of_mem_paths hpath
    refine ⟨span, hspan, ?_⟩
    rw [(read_joined_eq_self_iff hpath).mpr hsegments]
    exact resolveSpan_ofPath hspan hwithin
  · constructor
    · intro hall mark hmark _ hempty
      obtain ⟨path, hpath, hsegment⟩ := exists_empty_segment text hmark hempty
      exact (read_joined_eq_self_iff hpath).mp (hall path hpath) hsegment
    · intro htitles path hpath
      refine (read_joined_eq_self_iff hpath).mpr ?_
      intro hsegment
      obtain ⟨mark, hmark, hheading, hempty⟩ := exists_empty_base_of_mem_segments hpath hsegment
      exact htitles mark hmark hheading hempty

/-! ## A section that cannot be typed -/

/--
A title in letters of another script leaves nothing of the path of its section, so the
path of a section below it is read as that of a section beside it.
-/
theorem path_below_untitled_reads_as_another :
    let document := Node.ofLines [.heading 1 "概要", .heading 2 "Usage", .heading 1 "Usage"]
    let text := "# 概要\n## Usage\n# Usage\n"
    let path : SlugPath := ⟨["", "usage"]⟩
    path ∈ (build document text .bare).paths ∧
      Selector.read path.joined ≠ .ok (.ofPath path) ∧
      (build document text .bare).get? path = some ⟨9, 18⟩ ∧
      (Selector.read path.joined >>= fun selector =>
        resolveSpan (build document text .bare) selector text.utf8ByteSize) = .ok ⟨18, 26⟩ := by
  intro document text path
  have hmem : path ∈ (build document text .bare).paths := by decide
  have hread : Selector.read path.joined = .ok (.ofPath ⟨["usage"]⟩) :=
    Selector.read_joined (by decide)
  have hother : resolveSpan (build document text .bare) (.ofPath ⟨["usage"]⟩) text.utf8ByteSize =
      .ok ⟨18, 26⟩ := resolveSpan_ofPath (by decide) ⟨by decide, by decide⟩
  refine ⟨hmem, ?_, by decide, ?_⟩
  · rw [Ne, read_joined_eq_self_iff hmem]
    decide
  · simp only [hread, bind, Except.bind]
    exact hother

end Index

end Sections
