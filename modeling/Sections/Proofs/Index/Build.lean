import Sections.Proofs.Index.Walk
import Sections.Proofs.Markup.LineIndex

/-!
# What an index holds

The index of a document has one entry for each recorded landmark.  A leaf is found with its own
bytes and a heading with its whole section, each directly below the heading that encloses it.
-/

namespace Sections.Index

/-- The recorded landmarks of a document, in the order they are visited, with their paths. -/
def placements (document : Node) (text : String) (options : IndexOptions) : List Placement :=
  Walk.placements (.ofText text) {} (document.landmarks options)

theorem map_mark_placements (document : Node) (text : String) (options : IndexOptions) :
    (placements document text options).map Placement.mark = document.landmarks options :=
  Walk.map_mark_placements _ _ _

theorem tracks_visit (document : Node) (text : String) (options : IndexOptions) :
    Walk.Tracks (.ofText text) (placements document text options)
      (Walk.visit (.ofText text) options {} document) := by
  rw [Walk.visit_eq_foldl]
  simpa [placements] using (Walk.tracks_nil (.ofText text)).foldl (document.landmarks options)

theorem settles_build (document : Node) (text : String) (options : IndexOptions) :
    Walk.Settles (.ofText text) (placements document text options) (fun _ => true)
      (fun heading => heading.mark.extent (.ofText text) [])
      ((Walk.visit (.ofText text) options {} document).closeFrames 0 text.utf8ByteSize) := by
  refine (tracks_visit document text options).closeFrames ?_ ?_
  · simp
  · intro heading hopen _
    have hle := (LineIndex.ofText text).start_span_le_length heading.mark.source
    have hlength : (LineIndex.ofText text).length = text.utf8ByteSize := rfl
    simp [Landmark.extent, (Placement.mem_of_mem_openHeadings hopen).2, Walk.openSection, hlength]
    omega

theorem entries_build (document : Node) (text : String) (options : IndexOptions) :
    (build document text options).entries.Perm
      ((Placement.sections (.ofText text) (placements document text options)).map
        fun entry => (entry.1.path, entry.2)) := by
  refine (settles_build document text options).spans.trans ?_
  rw [List.filter_true]
  exact (Placement.settled_append_open _ _).map _

theorem headings_build (document : Node) (text : String) (options : IndexOptions) :
    (build document text options).headings.entries.Perm
      (((placements document text options).filter fun entry => entry.mark.isHeading).map
        fun entry =>
          (entry.path, ⟨entry.mark.source, (LineIndex.ofText text).span entry.mark.source⟩)) := by
  refine (settles_build document text options).headings.trans ?_
  rw [List.filter_true]
  refine (((Placement.settled_append_open _ _).filter _).map _).trans (List.Perm.of_eq ?_)
  conv_rhs => rw [← Placement.map_fst_sections (.ofText text) (placements document text options)]
  rw [List.filter_map, List.map_map]
  rfl

theorem nodup_placements (document : Node) (text : String) (options : IndexOptions) :
    ((placements document text options).map Placement.path).Nodup :=
  (tracks_visit document text options).distinct

theorem paths_build (document : Node) (text : String) (options : IndexOptions) :
    (build document text options).paths.Perm
      ((placements document text options).map Placement.path) := by
  refine ((entries_build document text options).map Prod.fst).trans (List.Perm.of_eq ?_)
  conv_rhs => rw [← Placement.map_fst_sections (.ofText text) (placements document text options)]
  rw [List.map_map, List.map_map]
  rfl

theorem nodup_paths (document : Node) (text : String) (options : IndexOptions) :
    (build document text options).paths.Nodup :=
  (paths_build document text options).nodup_iff.mpr (nodup_placements document text options)

theorem get?_build {document : Node} {text : String} {options : IndexOptions}
    {earlier later : List Placement} {entry : Placement}
    (hsplit : placements document text options = earlier ++ entry :: later) :
    (build document text options).get? entry.path =
      some (entry.mark.extent (.ofText text) later) := by
  refine (PathTable.get?_eq_some_iff (nodup_paths document text options)).mpr
    ((entries_build document text options).mem_iff.mpr ?_)
  rw [hsplit]
  exact List.mem_map_of_mem Placement.mem_sections

theorem enclosed_build {document : Node} {text : String} {options : IndexOptions}
    {earlier later : List Placement} {entry : Placement}
    (hsplit : placements document text options = earlier ++ entry :: later) :
    ∃ slug, entry.path = (Placement.enclosing entry.mark earlier).child slug := by
  simpa using (Walk.tracks_nil (.ofText text)).enclosed hsplit

/--
Each recorded landmark has a path of its own and one entry under it, the headings have
their declarations under the same paths, and what lies above a path are paths of headings.
-/
theorem build_records_each_landmark_once (document : Node) (text : String)
    (options : IndexOptions) :
    (placements document text options).map Placement.mark = document.landmarks options ∧
      ((placements document text options).map Placement.path).Nodup ∧
      (build document text options).paths.Perm
        ((placements document text options).map Placement.path) ∧
      (build document text options).headings.entries.Perm
        (((placements document text options).filter fun entry => entry.mark.isHeading).map
          fun entry =>
            (entry.path, ⟨entry.mark.source, (LineIndex.ofText text).span entry.mark.source⟩)) ∧
      ∀ entry ∈ placements document text options, ∀ stem, stem ≠ .root →
        stem.segments <+: entry.path.segments → stem ≠ entry.path →
        ∃ heading ∈ placements document text options,
          heading.mark.isHeading ∧ heading.path = stem := by
  refine ⟨map_mark_placements document text options, nodup_placements document text options,
    paths_build document text options, headings_build document text options, ?_⟩
  intro entry hentry stem hroot hstem hne
  exact Placement.exists_heading_of_stem (fun _ _ _ => enclosed_build) hentry hroot hstem hne

/--
Every entry holds the bytes that the levels of the later headings leave to it, and its
path is that of the enclosing heading and one slug more.
-/
theorem build_sections (document : Node) (text : String) (options : IndexOptions) :
    (placements document text options).map Placement.mark = document.landmarks options ∧
      ∀ earlier entry later, placements document text options = earlier ++ entry :: later →
        (build document text options).get? entry.path =
            some (entry.mark.extent (.ofText text) later) ∧
          ∃ slug, entry.path = (Placement.enclosing entry.mark earlier).child slug := by
  refine ⟨map_mark_placements document text options, ?_⟩
  intro earlier entry later hsplit
  exact ⟨get?_build hsplit, enclosed_build hsplit⟩

end Sections.Index
