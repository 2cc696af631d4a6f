import Sections.Command.Listing
import Sections.Proofs.Index.Build

/-!
# The rows of a listing

A listing has the paths of an index in their order.  So each path comes after its parent, what lies
below it follows it at once, and a row belongs to the last row above it that is indented less.
-/

namespace Sections

/-! ## Paths in order -/

section Order

variable {front back : List SlugPath} {path : SlugPath}

theorem exists_block_of_forall_lt (hbehind : ∀ other ∈ back, path < other)
    (hordered : back.Pairwise (· < ·)) :
    ∃ block rest, back = block ++ rest ∧ (∀ below ∈ block, path.segments <+: below.segments) ∧
      ∀ other ∈ rest, ¬ path.segments <+: other.segments := by
  induction back with
  | nil => exact ⟨[], [], rfl, by simp, by simp⟩
  | cons first back ih =>
      obtain ⟨hfirst, hback⟩ := List.forall_mem_cons.mp hbehind
      obtain ⟨hless, hordered⟩ := List.pairwise_cons.mp hordered
      by_cases hbelow : path.segments <+: first.segments
      · obtain ⟨block, rest, rfl, hblock, hrest⟩ := ih hback hordered
        exact ⟨first :: block, rest, rfl, List.forall_mem_cons.mpr ⟨hbelow, hblock⟩, hrest⟩
      · refine ⟨[], first :: back, rfl, by simp, ?_⟩
        intro other hother hstem
        rcases List.mem_cons.mp hother with rfl | hother
        · exact hbelow hstem
        · exact hbelow (prefix_of_between hfirst (hless other hother) hstem)

theorem exists_block_of_pairwise (hordered : (front ++ path :: back).Pairwise (· < ·)) :
    ∃ block rest, back = block ++ rest ∧
      (∀ below ∈ block, path.segments <+: below.segments) ∧
      ∀ other ∈ front ++ rest, ¬ path.segments <+: other.segments := by
  obtain ⟨-, hback, hfront⟩ := List.pairwise_append.mp hordered
  obtain ⟨hbehind, hback⟩ := List.pairwise_cons.mp hback
  obtain ⟨block, rest, hsplit, hblock, hrest⟩ := exists_block_of_forall_lt hbehind hback
  refine ⟨block, rest, hsplit, hblock, ?_⟩
  intro other hother
  rcases List.mem_append.mp hother with hother | hother
  · have hless := hfront other hother path List.mem_cons_self
    exact fun hstem => SlugPath.not_lt_of_isPrefix hstem hless
  · exact hrest other hother

theorem exists_parent_of_pairwise (hordered : (front ++ path :: back).Pairwise (· < ·))
    (hlisted : path.parent ∈ front ++ path :: back) (hroot : path ≠ .root) :
    ∃ before between, front = before ++ path.parent :: between ∧
      ∀ other ∈ between, path.length ≤ other.length := by
  have hparent := SlugPath.parent_lt hroot
  obtain ⟨hfront, hback, hless⟩ := List.pairwise_append.mp hordered
  have hmem : path.parent ∈ front := by
    rcases List.mem_append.mp hlisted with hmem | hmem
    · exact hmem
    · rcases List.mem_cons.mp hmem with hself | hmem
      · rw [hself] at hparent
        exact absurd hparent (irrefl_of (· < ·) path)
      · have hbehind := (List.pairwise_cons.mp hback).1 _ hmem
        exact absurd hparent (asymm_of (· < ·) hbehind)
  obtain ⟨before, between, rfl⟩ := List.append_of_mem hmem
  refine ⟨before, between, rfl, ?_⟩
  intro other hother
  have hafter := (List.pairwise_cons.mp (List.pairwise_append.mp hfront).2.1).1 other hother
  exact SlugPath.length_le_of_between hafter (hless other (by simp [hother]) path (by simp))

end Order

namespace Index

namespace Walk

theorem ordered_closeFrames {walk : Walk} (hordered : walk.spans.Ordered) (level stop : Nat) :
    (walk.closeFrames level stop).spans.Ordered := by
  unfold closeFrames
  generalize walk.frames = frames
  induction frames generalizing walk with
  | nil => exact hordered
  | cons frame rest ih =>
      unfold closeFrames.go
      split
      · exact ih (hordered.insert _ _)
      · exact hordered

theorem ordered_record {walk : Walk} (hordered : walk.spans.Ordered) (lines : LineIndex)
    (mark : Landmark) : (walk.record lines mark).spans.Ordered := by
  have hready : (walk.makeReady lines mark).spans.Ordered := by
    unfold makeReady
    split
    · exact ordered_closeFrames hordered _ _
    · exact hordered
  unfold record
  split
  · exact hready
  · exact hready.insert _ _

end Walk

variable {document : Node} {text : String} {options : IndexOptions}

theorem ordered_build (document : Node) (text : String) (options : IndexOptions) :
    (build document text options).spans.Ordered := by
  refine Walk.ordered_closeFrames ?_ 0 text.utf8ByteSize
  rw [Walk.visit_eq_foldl]
  refine List.foldlRecOn (motive := fun walk : Walk => walk.spans.Ordered) _ _
    PathTable.ordered_empty ?_
  intro walk hordered mark _
  exact Walk.ordered_record hordered _ mark

theorem parent_mem_paths {path : SlugPath} (hpath : path ∈ (build document text options).paths)
    (hlength : 2 ≤ path.length) : path.parent ∈ (build document text options).paths := by
  have hlisted := paths_build document text options
  obtain ⟨entry, hentry, rfl⟩ := List.mem_map.mp (hlisted.subset hpath)
  have hdepth := entry.path.length_parent
  have hroot : entry.path.parent ≠ .root := by
    intro hroot
    rw [hroot, SlugPath.length, SlugPath.root, List.length_nil] at hdepth
    omega
  have hself : entry.path.parent ≠ entry.path := by
    intro hself
    rw [hself] at hdepth
    omega
  obtain ⟨heading, hheading, -, hfound⟩ :=
    Placement.exists_heading_of_stem (fun _ _ _ => enclosed_build) hentry hroot
      entry.path.parent_isPrefix hself
  rw [← hfound]
  exact hlisted.symm.subset (List.mem_map_of_mem hheading)

/-! ## Lines -/

/-- Whether a line shows a path, with two blanks in front for each section around. -/
def Shows (line : String) (path : SlugPath) : Prop :=
  ∃ rest, line = String.ofList (List.replicate (2 * (path.length - 1)) ' ') ++ path.joined ++ rest

theorem shows_listingLine (palette : Palette) (width : Nat) (path : SlugPath) (span : Span) :
    Shows (listingLine palette width path span) path := by
  refine ⟨String.ofList (List.replicate
    (width + path.indent.length - (path.indent ++ path.joined).length) ' ') ++
      ("  " ++ palette.paint .dimmed span.render), ?_⟩
  simp only [listingLine, padded, SlugPath.indent, String.append_assoc]

theorem listing_shows_paths {index : Index} (hsome : index.paths ≠ []) (palette : Palette) :
    List.Forall₂ Shows (index.listing palette) index.paths := by
  have hentries : index.isEmpty = false := by
    simpa [isEmpty, paths, PathTable.paths] using hsome
  rw [listing, if_neg (by simp [hentries]), paths, PathTable.paths, entries]
  rw [List.forall₂_map_left_iff, List.forall₂_map_right_iff, List.forall₂_same]
  rintro ⟨path, span⟩ -
  exact shows_listingLine palette _ path span

/--
The rows of a listing stand in the order of their paths, one for each.  A path comes after its
parent, which is the last row before it that is less deep, and all paths below it follow it in one
block.
-/
theorem rows_form_tree (document : Node) (text : String) (options : IndexOptions) :
    let index := build document text options
    index.paths.Pairwise (· < ·) ∧
    (∀ front path back, index.paths = front ++ path :: back → 2 ≤ path.length →
      ∃ before between, front = before ++ path.parent :: between ∧
        ∀ other ∈ between, path.length ≤ other.length) ∧
    (∀ front path back, index.paths = front ++ path :: back →
      ∃ block rest, back = block ++ rest ∧
        (∀ below ∈ block, path.segments <+: below.segments) ∧
        ∀ other ∈ front ++ rest, ¬ path.segments <+: other.segments) ∧
    ∀ palette, index.paths ≠ [] → List.Forall₂ Shows (index.listing palette) index.paths := by
  intro index
  have hordered : index.paths.Pairwise (· < ·) := (ordered_build document text options).paths
  refine ⟨hordered, ?_, ?_, fun palette hsome => listing_shows_paths hsome palette⟩
  · intro front path back hsplit hlength
    have hroot : path ≠ .root := by
      rintro rfl
      exact absurd hlength (by decide)
    have hlisted : path.parent ∈ index.paths :=
      parent_mem_paths (by simp [index, hsplit]) hlength
    rw [hsplit] at hordered hlisted
    exact exists_parent_of_pairwise hordered hlisted hroot
  · intro front path back hsplit
    rw [hsplit] at hordered
    exact exists_block_of_pairwise hordered

end Index

end Sections
