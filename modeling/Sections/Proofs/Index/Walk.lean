import Sections.Proofs.Association
import Sections.Proofs.Index.Outline
import Sections.Proofs.Index.PathTable
import Sections.Proofs.Slug

/-!
# The invariant of a walk

At any time a walk holds the outline of what it has recorded: its frames are the open headings, its
path is the path of the last one, and its tables have the entries that are settled.
-/

namespace Sections

namespace Index.Walk

def pathsOf : SlugPath → List Frame → List (SlugPath × Frame)
  | _, [] => []
  | path, frame :: rest => (path, frame) :: pathsOf path.parent rest

def openSections (walk : Walk) : List (SlugPath × Frame) := pathsOf walk.path walk.frames

theorem map_snd_pathsOf (path : SlugPath) (frames : List Frame) :
    (pathsOf path frames).map Prod.snd = frames := by
  induction frames generalizing path with
  | nil => rfl
  | cons frame rest ih => simp [pathsOf, ih]

/-! ## Closing -/

structure Closes (level stop : Nat) (walk closed : Walk) : Prop where
  depth : walk.path.length = walk.frames.length → closed.path.length = closed.frames.length
  opened : closed.openSections =
    walk.openSections.filter fun entry => !decide (level ≤ entry.2.level)
  spans : closed.spans.entries.Perm
    ((walk.openSections.filter fun entry => decide (level ≤ entry.2.level)).map
      (fun entry => (entry.1, ⟨entry.2.start, max stop entry.2.start⟩)) ++ walk.spans.entries)
  headings : closed.headings.entries.Perm
    ((walk.openSections.filter fun entry => decide (level ≤ entry.2.level)).map
      (fun entry => (entry.1, entry.2.declaration)) ++ walk.headings.entries)

theorem Closes.refl {level stop : Nat} {walk : Walk}
    (hshallow : ∀ entry ∈ walk.openSections, entry.2.level < level) :
    Closes level stop walk walk := by
  have hnone : (walk.openSections.filter fun entry => decide (level ≤ entry.2.level)) = [] := by
    simpa using hshallow
  refine ⟨id, ?_, by simp [hnone], by simp [hnone]⟩
  symm
  simpa using hshallow

theorem Closes.closeFrame {level stop : Nat} {walk closed : Walk} {frame : Frame}
    {rest : List Frame} (hframes : walk.frames = frame :: rest) (hdeep : level ≤ frame.level)
    (hspans : walk.path ∉ walk.spans.paths) (hheadings : walk.path ∉ walk.headings.paths)
    (hrest : Closes level stop (walk.closeFrame frame rest stop) closed) :
    Closes level stop walk closed := by
  have hopen : walk.openSections =
      (walk.path, frame) :: (walk.closeFrame frame rest stop).openSections := by
    simp [openSections, hframes, pathsOf, Walk.closeFrame]
  constructor
  case depth =>
    intro hdepth
    apply hrest.depth
    simp [Walk.closeFrame, hframes, SlugPath.length, SlugPath.parent] at hdepth ⊢
    omega
  case opened => simp [hopen, hdeep, hrest.opened]
  case spans =>
    refine hrest.spans.trans ?_
    refine ((PathTable.entries_insert_perm hspans _).append_left _).trans ?_
    simp [hopen, hdeep]
  case headings =>
    refine hrest.headings.trans ?_
    refine ((PathTable.entries_insert_perm hheadings _).append_left _).trans ?_
    simp [hopen, hdeep]

theorem nodup_insert {α : Type} {path : SlugPath} {opened : List SlugPath} {table : PathTable α}
    (hnodup : (path :: opened ++ table.paths).Nodup) (value : α) :
    path ∉ table.paths ∧ (opened ++ (table.insert path value).paths).Nodup := by
  have hnew : path ∉ table.paths := by
    intro hmem
    exact (List.nodup_cons.mp hnodup).1 (List.mem_append_right _ hmem)
  have hperm := ((PathTable.paths_insert_perm hnew value).append_left opened).trans List.perm_middle
  exact ⟨hnew, hperm.nodup_iff.mpr hnodup⟩

theorem closeFrames_closes {walk : Walk} (level stop : Nat)
    (hlevels : walk.frames.Pairwise fun inner outer => outer.level < inner.level)
    (hspans : (walk.openSections.map Prod.fst ++ walk.spans.paths).Nodup)
    (hheadings : (walk.openSections.map Prod.fst ++ walk.headings.paths).Nodup) :
    Closes level stop walk (walk.closeFrames level stop) := by
  obtain ⟨frames, hframes⟩ : ∃ frames, walk.frames = frames := ⟨_, rfl⟩
  unfold closeFrames
  rw [hframes] at hlevels ⊢
  induction frames generalizing walk with
  | nil => exact .refl (by simp [openSections, hframes, pathsOf])
  | cons frame rest ih =>
      obtain ⟨hhead, htail⟩ := List.pairwise_cons.mp hlevels
      unfold closeFrames.go
      by_cases hdeep : level ≤ frame.level
      · rw [if_pos hdeep]
        have hopen : walk.openSections.map Prod.fst = walk.path ::
            (walk.closeFrame frame rest stop).openSections.map Prod.fst := by
          simp [openSections, hframes, pathsOf, Walk.closeFrame]
        rw [hopen] at hspans hheadings
        obtain ⟨hspan, hspans⟩ := nodup_insert hspans ⟨frame.start, max stop frame.start⟩
        obtain ⟨hheading, hheadings⟩ := nodup_insert hheadings frame.declaration
        exact .closeFrame hframes hdeep hspan hheading (ih hspans hheadings htail rfl)
      · rw [if_neg hdeep]
        refine .refl ?_
        intro entry hentry
        have hmem : entry.2 ∈ frame :: rest := by
          rw [← hframes, ← map_snd_pathsOf walk.path walk.frames]
          exact List.mem_map_of_mem hentry
        rcases List.mem_cons.mp hmem with heq | hrest
        · rw [heq]
          omega
        · have := hhead _ hrest
          omega

theorem siblings_closeFrames (walk : Walk) (level stop : Nat) :
    (walk.closeFrames level stop).siblings = walk.siblings := by
  unfold closeFrames
  generalize walk.frames = frames
  induction frames generalizing walk with
  | nil => rfl
  | cons frame rest ih =>
      unfold closeFrames.go
      split
      · exact ih _
      · rfl

theorem siblings_makeReady (lines : LineIndex) (walk : Walk) (mark : Landmark) :
    (walk.makeReady lines mark).siblings = walk.siblings := by
  unfold makeReady
  split
  · exact siblings_closeFrames walk _ _
  · rfl

/-! ## Claiming -/

def usedBelow (walk : Walk) (parent : SlugPath) : List String :=
  ((walk.siblings.lookup parent).getD {}).used

theorem claim_notMem (walk : Walk) (base : String) :
    (walk.claim base).1 ∉ walk.usedBelow walk.path :=
  SiblingSlugs.claim_notMem _ base

theorem usedBelow_claim_self (walk : Walk) (base : String) :
    (walk.claim base).2.usedBelow walk.path = (walk.claim base).1 :: walk.usedBelow walk.path := by
  simp [usedBelow, claim, SiblingSlugs.used_claim]

theorem usedBelow_claim_of_ne (walk : Walk) (base : String) {parent : SlugPath}
    (hne : parent ≠ walk.path) : (walk.claim base).2.usedBelow parent = walk.usedBelow parent := by
  have hbeq : (parent == walk.path) = false := by simpa using hne
  simp [usedBelow, claim, List.lookup_cons, hbeq, lookup_filter_ne hne]

theorem usedBelow_claim_subset (walk : Walk) (base : String) (parent : SlugPath) :
    walk.usedBelow parent ⊆ (walk.claim base).2.usedBelow parent := by
  by_cases hparent : parent = walk.path
  · subst hparent
    rw [usedBelow_claim_self]
    exact List.subset_cons_self _ _
  · rw [usedBelow_claim_of_ne walk base hparent]
    exact List.Subset.refl _

/-! ## The invariant -/

def openSection (lines : LineIndex) (heading : Placement) : SlugPath × Frame :=
  let bytes := lines.span heading.mark.source
  (heading.path, ⟨heading.mark.level?.getD 0, bytes.start, heading.mark.source, bytes⟩)

structure Tracks (lines : LineIndex) (done : List Placement) (walk : Walk) : Prop where
  depth : walk.path.length = walk.frames.length
  opened : walk.openSections = (Placement.openHeadings done).map (openSection lines)
  spans : walk.spans.entries.Perm
    ((Placement.settled lines done).map fun entry => (entry.1.path, entry.2))
  headings : walk.headings.entries.Perm
    (((Placement.settled lines done).filter fun entry => entry.1.mark.isHeading).map
      fun entry => (entry.1.path, (openSection lines entry.1).2.declaration))
  distinct : (done.map Placement.path).Nodup
  claimed : ∀ entry ∈ done, ∃ parent slug,
    entry.path = parent.child slug ∧ slug ∈ walk.usedBelow parent

/-- How a walk stands once it has closed some of the open headings, where they end as given. -/
structure Settles (lines : LineIndex) (done : List Placement) (closes : Placement → Bool)
    (ending : Placement → Span) (closed : Walk) : Prop where
  depth : closed.path.length = closed.frames.length
  opened : closed.openSections =
    ((Placement.openHeadings done).filter fun heading => !closes heading).map (openSection lines)
  spans : closed.spans.entries.Perm
    ((((Placement.openHeadings done).filter closes).map
        (fun heading => (heading, ending heading)) ++
      Placement.settled lines done).map fun entry => (entry.1.path, entry.2))
  headings : closed.headings.entries.Perm
    (((((Placement.openHeadings done).filter closes).map
        (fun heading => (heading, ending heading)) ++
      Placement.settled lines done).filter fun entry => entry.1.mark.isHeading).map
      fun entry => (entry.1.path, (openSection lines entry.1).2.declaration))

theorem tracks_nil (lines : LineIndex) : Tracks lines [] {} := by
  constructor <;> simp [Placement.openHeadings, Placement.settled, openSections, pathsOf,
    PathTable.empty]
  rfl

section

variable {lines : LineIndex} {done : List Placement} {walk : Walk}

theorem Tracks.levels (htracks : Tracks lines done walk) :
    walk.frames.Pairwise fun inner outer => outer.level < inner.level := by
  have hframes : walk.frames =
      (Placement.openHeadings done).map fun heading => (openSection lines heading).2 := by
    rw [← map_snd_pathsOf walk.path walk.frames]
    simpa [openSections, Function.comp_def] using congrArg (List.map Prod.snd) htracks.opened
  rw [hframes, List.pairwise_map]
  refine (Placement.openHeadings_pairwise done).imp_of_mem ?_
  intro inner outer hinner houter hopen
  obtain ⟨level, hlevel⟩ :=
    Option.isSome_iff_exists.mp (Placement.mem_of_mem_openHeadings hinner).2
  rw [Landmark.closes_iff hlevel (Placement.mem_of_mem_openHeadings houter).2] at hopen
  simpa [openSection, hlevel] using hopen

theorem Tracks.map_fst_openSections (htracks : Tracks lines done walk) :
    walk.openSections.map Prod.fst = (Placement.openHeadings done).map Placement.path := by
  rw [htracks.opened, List.map_map]
  rfl

theorem Tracks.nodup_settled (htracks : Tracks lines done walk) :
    (walk.openSections.map Prod.fst ++
      (Placement.settled lines done).map fun entry => entry.1.path).Nodup := by
  have hperm := (Placement.openHeadings_append_settled lines done).map Placement.path
  rw [htracks.map_fst_openSections]
  simpa [Function.comp_def] using hperm.nodup_iff.mpr htracks.distinct

theorem Tracks.nodup_spans (htracks : Tracks lines done walk) :
    (walk.openSections.map Prod.fst ++ walk.spans.paths).Nodup := by
  have hpaths : walk.spans.paths.Perm
      ((Placement.settled lines done).map fun entry => entry.1.path) := by
    simpa [PathTable.paths, Function.comp_def] using htracks.spans.map Prod.fst
  exact (hpaths.append_left _).nodup_iff.mpr htracks.nodup_settled

theorem Tracks.nodup_headings (htracks : Tracks lines done walk) :
    (walk.openSections.map Prod.fst ++ walk.headings.paths).Nodup := by
  have hpaths : walk.headings.paths.Perm
      (((Placement.settled lines done).filter fun entry => entry.1.mark.isHeading).map
        fun entry => entry.1.path) := by
    simpa [PathTable.paths, Function.comp_def] using htracks.headings.map Prod.fst
  refine (hpaths.append_left _).nodup_iff.mpr (htracks.nodup_settled.sublist ?_)
  exact (List.filter_sublist.map _).append_left _

theorem Tracks.closeFrames (htracks : Tracks lines done walk) {level stop : Nat}
    {closes : Placement → Bool} {ending : Placement → Span}
    (hcloses : ∀ heading ∈ Placement.openHeadings done,
      decide (level ≤ (openSection lines heading).2.level) = closes heading)
    (hending : ∀ heading ∈ Placement.openHeadings done, closes heading →
      ending heading =
        ⟨(openSection lines heading).2.start, max stop (openSection lines heading).2.start⟩) :
    Settles lines done closes ending (walk.closeFrames level stop) := by
  have hclosed := closeFrames_closes level stop htracks.levels htracks.nodup_spans
    htracks.nodup_headings
  have hdeep : (walk.openSections.filter fun opened => decide (level ≤ opened.2.level)) =
      ((Placement.openHeadings done).filter closes).map (openSection lines) := by
    rw [htracks.opened, List.filter_map]
    exact congrArg _ (List.filter_congr hcloses)
  constructor
  case depth => exact hclosed.depth htracks.depth
  case opened =>
    rw [hclosed.opened, htracks.opened, List.filter_map]
    exact congrArg _ (List.filter_congr fun heading hopen => congrArg _ (hcloses heading hopen))
  case spans =>
    have hspans := hclosed.spans
    rw [hdeep, List.map_map] at hspans
    rw [List.map_append, List.map_map]
    refine hspans.trans ((List.Perm.of_eq (List.map_congr_left ?_)).append htracks.spans)
    intro heading hmem
    obtain ⟨hopen, hcloses⟩ := List.mem_filter.mp hmem
    simp [hending heading hopen hcloses, openSection]
  case headings =>
    have hheadings := hclosed.headings
    have hall : ((((Placement.openHeadings done).filter closes).map
        (fun heading => (heading, ending heading))).filter fun entry => entry.1.mark.isHeading) =
        ((Placement.openHeadings done).filter closes).map
          (fun heading => (heading, ending heading)) := by
      rw [List.filter_eq_self]
      simp only [List.mem_map, List.mem_filter]
      rintro _ ⟨heading, ⟨hopen, -⟩, rfl⟩
      exact (Placement.mem_of_mem_openHeadings hopen).2
    rw [hdeep, List.map_map] at hheadings
    rw [List.filter_append, hall, List.map_append, List.map_map]
    exact hheadings.trans (htracks.headings.append_left _)

theorem Tracks.makeReady (htracks : Tracks lines done walk) (entry : Placement) :
    Settles lines done (fun heading => entry.mark.closes heading.mark)
      (fun heading => heading.mark.extent lines [entry]) (walk.makeReady lines entry.mark) := by
  cases hlevel : entry.mark.level? with
  | none =>
      have hleaf (heading : Placement) : entry.mark.closes heading.mark = false :=
        Landmark.leaf_closes (by simp [Landmark.isHeading, hlevel])
      simp only [Walk.makeReady, hlevel, hleaf]
      constructor
      case depth => exact htracks.depth
      case opened => simpa using htracks.opened
      case spans => simpa using htracks.spans
      case headings => simpa using htracks.headings
  | some level =>
      simp only [Walk.makeReady, hlevel]
      refine htracks.closeFrames ?_ ?_
      · intro heading hopen
        exact (Landmark.closes_iff hlevel (Placement.mem_of_mem_openHeadings hopen).2).symm
      · intro heading hopen hcloses
        simp [Landmark.extent, (Placement.mem_of_mem_openHeadings hopen).2, hcloses, openSection]

theorem path_eq_head (hdepth : walk.path.length = walk.frames.length) :
    walk.path = match walk.openSections.head? with
      | some entry => entry.1
      | none => .root := by
  cases hframes : walk.frames with
  | nil =>
      have hnil : walk.path.segments = [] := by
        simpa [SlugPath.length, hframes] using hdepth
      rw [show walk.path = ⟨walk.path.segments⟩ from rfl, hnil]
      simp [openSections, hframes, pathsOf, SlugPath.root]
  | cons frame rest => simp [openSections, hframes, pathsOf]

theorem Tracks.path_makeReady (htracks : Tracks lines done walk) (mark : Landmark) :
    (walk.makeReady lines mark).path = Placement.enclosing mark done := by
  have hready := htracks.makeReady ⟨mark, .root⟩
  rw [path_eq_head hready.depth, hready.opened, List.head?_map, List.head?_filter,
    Placement.enclosing]
  cases (Placement.openHeadings done).find? fun heading => !mark.closes heading.mark <;> rfl

theorem Tracks.address_notMem (htracks : Tracks lines done walk) (mark : Landmark) :
    walk.address lines mark ∉ done.map Placement.path := by
  intro hmem
  obtain ⟨entry, hentry, hpath⟩ := List.mem_map.mp hmem
  obtain ⟨parent, slug, hchild, hused⟩ := htracks.claimed entry hentry
  obtain ⟨rfl, rfl⟩ := SlugPath.child_injective (hchild.symm.trans hpath)
  refine claim_notMem (walk.makeReady lines mark) mark.base ?_
  simpa [usedBelow, siblings_makeReady] using hused

theorem usedBelow_record (lines : LineIndex) (walk : Walk) (mark : Landmark) (parent : SlugPath) :
    (walk.record lines mark).usedBelow parent =
      ((walk.makeReady lines mark).claim mark.base).2.usedBelow parent := by
  unfold Walk.record
  cases mark.level? <;> rfl

theorem Tracks.spans_paths_subset (htracks : Tracks lines done walk) :
    walk.spans.paths ⊆ done.map Placement.path := by
  intro path hpath
  have hpaths := (htracks.spans.map Prod.fst).subset hpath
  simp only [List.map_map, List.mem_map, Function.comp_apply] at hpaths
  obtain ⟨entry, hentry, rfl⟩ := hpaths
  have hdone := (Placement.openHeadings_append_settled lines done).subset
    (List.mem_append_right _ (List.mem_map_of_mem hentry))
  exact List.mem_map_of_mem hdone

theorem Tracks.claimed_record (htracks : Tracks lines done walk) (mark : Landmark) :
    ∀ entry ∈ done ++ [walk.place lines mark], ∃ parent slug,
      entry.path = parent.child slug ∧ slug ∈ (walk.record lines mark).usedBelow parent := by
  intro entry hentry
  simp only [usedBelow_record]
  rcases List.mem_append.mp hentry with hdone | hself
  · obtain ⟨parent, slug, hpath, hused⟩ := htracks.claimed entry hdone
    refine ⟨parent, slug, hpath, usedBelow_claim_subset _ _ _ ?_⟩
    simpa [usedBelow, siblings_makeReady] using hused
  · rw [List.mem_singleton.mp hself]
    refine ⟨_, _, rfl, ?_⟩
    rw [usedBelow_claim_self]
    exact List.mem_cons_self

theorem Tracks.distinct_record (htracks : Tracks lines done walk) (mark : Landmark) :
    ((done ++ [walk.place lines mark]).map Placement.path).Nodup := by
  rw [List.map_append, List.map_singleton, ← List.concat_eq_append]
  exact htracks.distinct.concat (htracks.address_notMem mark)

theorem Tracks.record_heading (htracks : Tracks lines done walk) {mark : Landmark} {level : Nat}
    (hlevel : mark.level? = some level) :
    Tracks lines (done ++ [walk.place lines mark]) (walk.record lines mark) := by
  have hready := htracks.makeReady (walk.place lines mark)
  have hsettled := Placement.settled_append lines done (walk.place lines mark)
  have hopened := Placement.openHeadings_append done (walk.place lines mark)
  have hheading : mark.isHeading = true := by simp [Landmark.isHeading, hlevel]
  have hrecord : walk.record lines mark =
      { ((walk.makeReady lines mark).claim mark.base).2 with
        path := walk.address lines mark
        frames := (openSection lines (walk.place lines mark)).2 ::
          (walk.makeReady lines mark).frames } := by
    simp [Walk.record, hlevel, openSection, claim]
  rw [place_mark, hheading] at hsettled hopened
  have hclaimed := htracks.claimed_record mark
  rw [hrecord] at hclaimed ⊢
  constructor
  case depth => simpa [address] using hready.depth
  case opened =>
    rw [hopened, List.map_append, ← place_mark lines walk mark, ← hready.opened]
    simp [openSections, pathsOf, address, openSection]
  case spans => exact hready.spans.trans (hsettled.symm.map _)
  case headings => exact hready.headings.trans ((hsettled.symm.filter _).map _)
  case distinct => exact htracks.distinct_record mark
  case claimed => exact hclaimed

theorem Tracks.record_leaf (htracks : Tracks lines done walk) {mark : Landmark}
    (hlevel : mark.level? = none) :
    Tracks lines (done ++ [walk.place lines mark]) (walk.record lines mark) := by
  have hsettled := Placement.settled_append lines done (walk.place lines mark)
  have hopened := Placement.openHeadings_append done (walk.place lines mark)
  have hleaf : mark.isHeading = false := by simp [Landmark.isHeading, hlevel]
  have hnew : walk.address lines mark ∉ walk.spans.paths := by
    intro hmem
    exact htracks.address_notMem mark (htracks.spans_paths_subset hmem)
  have hrecord : walk.record lines mark =
      { (walk.claim mark.base).2 with
        spans := walk.spans.insert (walk.address lines mark) (lines.span mark.source) } := by
    simp [Walk.record, Walk.makeReady, hlevel, claim]
  simp only [place_mark, hleaf, Landmark.leaf_closes hleaf] at hsettled hopened
  have hclaimed := htracks.claimed_record mark
  rw [hrecord] at hclaimed ⊢
  constructor
  case depth => exact htracks.depth
  case opened =>
    have hsame : Placement.openHeadings (done ++ [walk.place lines mark]) =
        Placement.openHeadings done := by simpa using hopened
    rw [hsame]
    exact htracks.opened
  case spans =>
    refine (PathTable.entries_insert_perm hnew _).trans ((htracks.spans.cons _).trans ?_)
    simpa using (hsettled.map fun entry => (entry.1.path, entry.2)).symm
  case headings =>
    refine htracks.headings.trans ?_
    simpa [hleaf] using ((hsettled.filter fun entry => entry.1.mark.isHeading).map
      fun entry => (entry.1.path, (openSection lines entry.1).2.declaration)).symm
  case distinct => exact htracks.distinct_record mark
  case claimed => exact hclaimed

theorem Tracks.record (htracks : Tracks lines done walk) (mark : Landmark) :
    Tracks lines (done ++ [walk.place lines mark]) (walk.record lines mark) := by
  cases hlevel : mark.level? with
  | some level => exact htracks.record_heading hlevel
  | none => exact htracks.record_leaf hlevel

theorem Tracks.foldl (htracks : Tracks lines done walk) (marks : List Landmark) :
    Tracks lines (done ++ walk.placements lines marks) (marks.foldl (Walk.record lines) walk) := by
  induction marks generalizing done walk with
  | nil => simpa [placements] using htracks
  | cons mark rest ih => simpa [placements] using ih (htracks.record mark)

theorem exists_walk_of_split {marks : List Landmark} {earlier later : List Placement}
    {entry : Placement} (hsplit : walk.placements lines marks = earlier ++ entry :: later) :
    ∃ front, walk.placements lines front = earlier ∧
      entry = (front.foldl (Walk.record lines) walk).place lines entry.mark := by
  induction marks generalizing walk earlier with
  | nil => simp [placements] at hsplit
  | cons mark rest ih =>
      rw [placements] at hsplit
      cases earlier with
      | nil =>
          obtain ⟨rfl, -⟩ := List.cons.inj hsplit
          exact ⟨[], rfl, rfl⟩
      | cons first earlier =>
          obtain ⟨rfl, hrest⟩ := List.cons.inj hsplit
          obtain ⟨front, hfront, hentry⟩ := ih hrest
          exact ⟨mark :: front, by rw [placements, hfront], hentry⟩

theorem Tracks.enclosed (htracks : Tracks lines done walk) {marks : List Landmark}
    {earlier later : List Placement} {entry : Placement}
    (hsplit : walk.placements lines marks = earlier ++ entry :: later) :
    ∃ slug, entry.path = (Placement.enclosing entry.mark (done ++ earlier)).child slug := by
  obtain ⟨front, rfl, hentry⟩ := exists_walk_of_split hsplit
  rw [hentry, place_mark, ← (htracks.foldl front).path_makeReady]
  exact ⟨_, rfl⟩

end

end Index.Walk

end Sections
