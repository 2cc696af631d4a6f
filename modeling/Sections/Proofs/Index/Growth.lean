import Sections.Proofs.Index.Boundaries

/-!
# Documents that grow at the end

What is appended to a document is visited last.  All that is recorded before keeps its path and its
declaration.  Of the spans, only those of sections that nothing has closed yet can change: such a
section ran to the end of the text, and an appended heading may end it earlier.
-/

namespace Sections

theorem Node.visitedAll_append (front back : List Node) :
    visitedAll (front ++ back) = visitedAll front ++ visitedAll back := by
  induction front with
  | nil => rfl
  | cons node rest ih => simp [visitedAll, ih]

theorem Node.landmarks_append (options : IndexOptions) (range : Option SourceRange)
    (children more : List Node) :
    (Node.mk .document range (children ++ more)).landmarks options =
      (Node.mk .document range children).landmarks options ++
        (visitedAll more).filterMap (landmark? options) := by
  have hself (children : List Node) :
      (Node.mk .document range children).landmark? options = none := rfl
  simp [landmarks, visited, visitedAll_append, hself]

namespace Landmark

variable {mark : Landmark} {later : List Placement}

theorem start_extent (lines : LineIndex) (mark : Landmark) (later : List Placement) :
    (mark.extent lines later).start = (lines.span mark.source).start := by
  unfold extent
  split
  · split <;> rfl
  · rfl

theorem extent_of_open (hopen : mark.staysOpen later) (lines : LineIndex) :
    mark.extent lines later = ⟨(lines.span mark.source).start, lines.length⟩ := by
  have hlast := extent_append_of_open hopen lines []
  rw [List.append_nil] at hlast
  rw [hlast]
  simp [extent, (Bool.and_eq_true_iff.mp hopen).1]

theorem stop_extent_append_le (lines : LineIndex) (mark : Landmark) (later more : List Placement) :
    (mark.extent lines (later ++ more)).stop ≤ (mark.extent lines later).stop := by
  cases hopen : mark.staysOpen later with
  | true =>
      rw [extent_of_open hopen]
      exact (mark.extent_within lines (later ++ more)).2
  | false => rw [extent_append_of_closed hopen]

end Landmark

namespace Index

theorem Walk.placements_append (lines : LineIndex) (walk : Walk) (front back : List Landmark) :
    walk.placements lines (front ++ back) =
      walk.placements lines front ++ (front.foldl (record lines) walk).placements lines back := by
  induction front generalizing walk with
  | nil => rfl
  | cons mark rest ih => simp [placements, ih]

theorem exists_placements_append (range : Option SourceRange) (children more : List Node)
    (text : String) (options : IndexOptions) :
    ∃ added, placements (.mk .document range (children ++ more)) text options =
      placements (.mk .document range children) text options ++ added := by
  unfold placements
  rw [Node.landmarks_append, Walk.placements_append]
  exact ⟨_, rfl⟩

theorem heading?_eq_of_mem {document grown : Node} {text : String} {options : IndexOptions}
    {entry : Placement} (hentry : entry ∈ placements document text options)
    (hgrown : entry ∈ placements grown text options) :
    (build grown text options).heading? entry.path =
      (build document text options).heading? entry.path := by
  cases hheading : entry.mark.isHeading with
  | true => rw [heading?_build hentry hheading, heading?_build hgrown hheading]
  | false => rw [heading?_of_leaf hentry hheading, heading?_of_leaf hgrown hheading]

/--
All paths and declarations of a document are still there when nodes are appended, and each
path with the same start.  Its span is the same too, unless it is a section that was open at the end
of the document; that one ends where it did or earlier.
-/
theorem addresses_survive_appended_nodes (range : Option SourceRange) (children more : List Node)
    (text : String) (options : IndexOptions) :
    let document := Node.mk .document range children
    let grown := Node.mk .document range (children ++ more)
    (∀ path declaration, (build document text options).heading? path = some declaration →
      (build grown text options).heading? path = some declaration) ∧
    ∀ path ∈ (build document text options).paths,
      ∃ earlier entry later, placements document text options = earlier ++ entry :: later ∧
        entry.path = path ∧
        (build grown text options).heading? path = (build document text options).heading? path ∧
        ∃ before after, (build document text options).get? path = some before ∧
          (build grown text options).get? path = some after ∧
          after.start = before.start ∧ after.stop ≤ before.stop ∧
          (entry.mark.staysOpen later = false → after = before) := by
  intro document grown
  obtain ⟨added, hadded⟩ := exists_placements_append range children more text options
  have hkept (entry : Placement) (hentry : entry ∈ placements document text options) :
      entry ∈ placements grown text options := by
    rw [hadded]
    exact List.mem_append_left _ hentry
  constructor
  · intro path declaration hdeclared
    obtain ⟨entry, hentry, -, rfl⟩ := exists_placement_of_heading? hdeclared
    rw [heading?_eq_of_mem hentry (hkept entry hentry), hdeclared]
  · intro path hpath
    obtain ⟨earlier, entry, later, hsplit, rfl⟩ := exists_placement_of_mem_paths hpath
    have hgrown : placements grown text options = earlier ++ entry :: (later ++ added) := by
      rw [hadded, hsplit, List.append_assoc, List.cons_append]
    have hentry : entry ∈ placements document text options := by simp [hsplit]
    refine ⟨earlier, entry, later, hsplit, rfl, heading?_eq_of_mem hentry (hkept entry hentry),
      _, _, get?_build hsplit, get?_build hgrown, ?_, ?_, ?_⟩
    · rw [Landmark.start_extent, Landmark.start_extent]
    · exact Landmark.stop_extent_append_le _ _ _ _
    · intro hclosed
      exact Landmark.extent_append_of_closed hclosed _ _

example :
    let kinds : List NodeKind := [.heading 1 "A", .code none]
    let text := "# A\nx\n# A\n"
    (build (.ofLines kinds) text .bare).entries =
        [(⟨["a"]⟩, ⟨0, 10⟩), (⟨["a", "code"]⟩, ⟨4, 6⟩)] ∧
      (build (.ofLines (kinds ++ [.heading 1 "A"])) text .bare).entries =
        [(⟨["a"]⟩, ⟨0, 6⟩), (⟨["a", "code"]⟩, ⟨4, 6⟩), (⟨["a-1"]⟩, ⟨6, 10⟩)] := by
  decide

end Index

end Sections
