import Sections.Proofs.Index.Build

/-!
# How siblings are named

The landmarks directly below one path compete for names, in the order they are visited, leaves
before headings.  Each gets the slug it asks for unless an earlier sibling has this very name; then
a number is added.  All names are slug texts.
-/

namespace Sections

structure Placement.NamedAfter (earlier : List Placement) (entry : Placement) : Prop where
  own : (enclosing entry.mark earlier).child entry.mark.base ∉ earlier.map Placement.path →
    entry.path = (enclosing entry.mark earlier).child entry.mark.base
  numbered : (enclosing entry.mark earlier).child entry.mark.base ∈ earlier.map Placement.path →
    ∃ suffix, entry.path =
      (enclosing entry.mark earlier).child (SiblingSlugs.suffixed entry.mark.base suffix)

namespace Index.Walk

variable {lines : LineIndex} {done : List Placement} {walk : Walk}

def Remembers (done : List Placement) (walk : Walk) : Prop :=
  ∀ parent slug, slug ∈ walk.usedBelow parent ↔ parent.child slug ∈ done.map Placement.path

theorem remembers_nil : Remembers [] {} := by
  intro parent slug
  simp [usedBelow]

theorem Remembers.record (hremembers : Remembers done walk) (lines : LineIndex)
    (mark : Landmark) : Remembers (done ++ [walk.place lines mark]) (walk.record lines mark) := by
  intro parent slug
  rw [usedBelow_record]
  have hready (parent : SlugPath) :
      slug ∈ (walk.makeReady lines mark).usedBelow parent ↔
        parent.child slug ∈ done.map Placement.path := by
    rw [← hremembers parent slug]
    simp [usedBelow, siblings_makeReady]
  have hplaced : parent.child slug ∈ (done ++ [walk.place lines mark]).map Placement.path ↔
      parent.child slug ∈ done.map Placement.path ∨
        parent.child slug = walk.address lines mark := by
    simp
  rw [hplaced]
  by_cases hparent : parent = (walk.makeReady lines mark).path
  · subst hparent
    rw [usedBelow_claim_self, List.mem_cons, hready, or_comm]
    refine or_congr Iff.rfl ⟨?_, ?_⟩
    · rintro rfl
      rfl
    · intro haddress
      exact (SlugPath.child_injective haddress).2
  · rw [usedBelow_claim_of_ne _ _ hparent, hready]
    refine ⟨.inl, ?_⟩
    rintro (hdone | haddress)
    · exact hdone
    · exact absurd (SlugPath.child_injective haddress).1 hparent

theorem Remembers.namedAfter (htracks : Tracks lines done walk) (hremembers : Remembers done walk)
    (mark : Landmark) : (walk.place lines mark).NamedAfter done := by
  have haddress : walk.address lines mark = (Placement.enclosing mark done).child
      ((walk.makeReady lines mark).claim mark.base).1 := by
    rw [← htracks.path_makeReady]
    rfl
  have hused : mark.base ∈ (walk.makeReady lines mark).usedBelow (walk.makeReady lines mark).path ↔
      (Placement.enclosing mark done).child mark.base ∈ done.map Placement.path := by
    rw [← hremembers, ← htracks.path_makeReady]
    simp [usedBelow, siblings_makeReady]
  constructor
  case own =>
    intro hfree
    rw [place_path, place_mark, haddress]
    exact congrArg _ (congrArg Prod.fst (SiblingSlugs.claim_of_notMem (mt hused.mp hfree)))
  case numbered =>
    intro htaken
    obtain ⟨suffix, hsuffix⟩ := SiblingSlugs.exists_suffixed_of_mem (hused.mpr htaken)
    refine ⟨suffix, ?_⟩
    rw [place_path, place_mark, haddress]
    exact congrArg _ hsuffix

theorem Remembers.foldl (hremembers : Remembers done walk) (lines : LineIndex)
    (marks : List Landmark) :
    Remembers (done ++ walk.placements lines marks) (marks.foldl (Walk.record lines) walk) := by
  induction marks generalizing done walk with
  | nil => simpa [placements] using hremembers
  | cons mark rest ih => simpa [placements] using ih (hremembers.record lines mark)

theorem Tracks.named (htracks : Tracks lines done walk) (hremembers : Remembers done walk)
    {marks : List Landmark} {earlier later : List Placement} {entry : Placement}
    (hsplit : walk.placements lines marks = earlier ++ entry :: later) :
    entry.NamedAfter (done ++ earlier) := by
  obtain ⟨front, rfl, hentry⟩ := exists_walk_of_split hsplit
  rw [hentry]
  exact (hremembers.foldl lines front).namedAfter (htracks.foldl front) entry.mark

end Index.Walk

/-! ## Slug texts -/

theorem Index.Walk.isSlugText_codeSlug (language : Option String) :
    IsSlugText (codeSlug language) := by
  unfold codeSlug
  split
  · next tag htag =>
    split
    · decide
    · obtain ⟨name, -, rfl⟩ := Option.map_eq_some_iff.mp htag
      exact IsSlugText.append (by decide) (isSlugText_slugify name)
  · decide

theorem Index.Walk.codeSlug_ne_empty (language : Option String) : codeSlug language ≠ "" := by
  unfold codeSlug
  split
  · split
    · decide
    · intro hempty
      have hchars := congrArg String.toList hempty
      simp at hchars
  · decide

theorem Landmark.MadeOf.isSlugText_base {kind : NodeKind} {mark : Landmark}
    (hmade : mark.MadeOf kind) : IsSlugText mark.base := by
  cases hmade with
  | heading level title source => exact isSlugText_slugify title
  | code language source => exact Index.Walk.isSlugText_codeSlug language
  | paragraph source => exact (by decide : IsSlugText "para")
  | listItem source => exact (by decide : IsSlugText "li")
  | blockQuote source => exact (by decide : IsSlugText "quote")

theorem Landmark.MadeOf.isHeading_of_empty {kind : NodeKind} {mark : Landmark}
    (hmade : mark.MadeOf kind) (hempty : mark.base = "") : mark.isHeading := by
  cases hmade with
  | heading level title source => rfl
  | code language source => exact absurd hempty (Index.Walk.codeSlug_ne_empty language)
  | paragraph source => exact absurd hempty (by decide : "para" ≠ "")
  | listItem source => exact absurd hempty (by decide : "li" ≠ "")
  | blockQuote source => exact absurd hempty (by decide : "quote" ≠ "")

namespace Index

variable {document : Node} {text : String} {options : IndexOptions}

theorem namedAfter_of_placements {earlier later : List Placement} {entry : Placement}
    (hsplit : placements document text options = earlier ++ entry :: later) :
    entry.NamedAfter earlier := by
  simpa using (Walk.tracks_nil (.ofText text)).named Walk.remembers_nil hsplit

theorem mark_mem_landmarks {entry : Placement}
    (hentry : entry ∈ placements document text options) :
    entry.mark ∈ document.landmarks options := by
  rw [← map_mark_placements document text options]
  exact List.mem_map_of_mem hentry

theorem exists_madeOf_of_mem {entry : Placement}
    (hentry : entry ∈ placements document text options) :
    ∃ kind, entry.mark.MadeOf kind := by
  obtain ⟨node, -, hnode⟩ := List.mem_filterMap.mp (mark_mem_landmarks hentry)
  exact ⟨node.kind, node.madeOf hnode⟩

theorem exists_child_of_mem {entry : Placement}
    (hentry : entry ∈ placements document text options) :
    ∃ (parent : SlugPath) (slug : String), entry.path = parent.child slug ∧
      (slug = entry.mark.base ∨ ∃ suffix, slug = SiblingSlugs.suffixed entry.mark.base suffix) := by
  obtain ⟨earlier, later, hsplit⟩ := List.append_of_mem hentry
  have hnamed := namedAfter_of_placements hsplit
  by_cases htaken : (Placement.enclosing entry.mark earlier).child entry.mark.base ∈
      earlier.map Placement.path
  · obtain ⟨suffix, hpath⟩ := hnamed.numbered htaken
    exact ⟨_, _, hpath, .inr ⟨suffix, rfl⟩⟩
  · exact ⟨_, _, hnamed.own htaken, .inl rfl⟩

theorem exists_base_of_mem_segments {path : SlugPath}
    (hpath : path ∈ (build document text options).paths) {segment : String}
    (hsegment : segment ∈ path.segments) :
    ∃ entry ∈ placements document text options,
      segment = entry.mark.base ∨
        ∃ suffix, segment = SiblingSlugs.suffixed entry.mark.base suffix := by
  obtain ⟨front, back, hsegments⟩ := List.append_of_mem hsegment
  obtain ⟨entry, hentry, hlast⟩ :
      ∃ entry ∈ placements document text options, entry.path = SlugPath.child ⟨front⟩ segment := by
    obtain ⟨whole, hwhole, rfl⟩ :=
      List.mem_map.mp ((paths_build document text options).subset hpath)
    by_cases heq : SlugPath.child ⟨front⟩ segment = whole.path
    · exact ⟨whole, hwhole, heq.symm⟩
    · obtain ⟨heading, hheading, -, hfound⟩ :=
        Placement.exists_heading_of_stem (fun _ _ _ => enclosed_build) hwhole
          (SlugPath.child_ne_root ⟨front⟩ segment) ⟨back, by simp [SlugPath.child, hsegments]⟩ heq
      exact ⟨heading, hheading, hfound⟩
  obtain ⟨parent, slug, hchild, hslug⟩ := exists_child_of_mem hentry
  obtain ⟨-, rfl⟩ := SlugPath.child_injective (hchild.symm.trans hlast)
  exact ⟨entry, hentry, hslug⟩

theorem isSlugText_of_mem_segments {path : SlugPath}
    (hpath : path ∈ (build document text options).paths) {segment : String}
    (hsegment : segment ∈ path.segments) : IsSlugText segment := by
  obtain ⟨entry, hentry, hslug⟩ := exists_base_of_mem_segments hpath hsegment
  obtain ⟨kind, hmade⟩ := exists_madeOf_of_mem hentry
  rcases hslug with rfl | ⟨suffix, rfl⟩
  · exact hmade.isSlugText_base
  · exact SiblingSlugs.isSlugText_suffixed hmade.isSlugText_base suffix

theorem exists_empty_base_of_mem_segments {path : SlugPath}
    (hpath : path ∈ (build document text options).paths) (hempty : "" ∈ path.segments) :
    ∃ mark ∈ document.landmarks options, mark.isHeading ∧ mark.base = "" := by
  obtain ⟨entry, hentry, hslug⟩ := exists_base_of_mem_segments hpath hempty
  rcases hslug with hbase | ⟨suffix, hsuffix⟩
  · obtain ⟨kind, hmade⟩ := exists_madeOf_of_mem hentry
    exact ⟨entry.mark, mark_mem_landmarks hentry, hmade.isHeading_of_empty hbase.symm, hbase.symm⟩
  · exact absurd hsuffix.symm (SiblingSlugs.suffixed_ne_empty entry.mark.base suffix)

/-! ## Order -/

theorem path_ne_of_split {front back : List Placement}
    (hsplit : placements document text options = front ++ back) {entry other : Placement}
    (hentry : entry ∈ front) (hother : other ∈ back) : entry.path ≠ other.path := by
  have hnodup := nodup_placements document text options
  rw [hsplit, List.map_append] at hnodup
  intro heq
  refine (List.nodup_append'.mp hnodup).2.2 (List.mem_map_of_mem hentry) ?_
  rw [heq]
  exact List.mem_map_of_mem hother

theorem parent_path {earlier later : List Placement} {entry : Placement}
    (hsplit : placements document text options = earlier ++ entry :: later) :
    entry.path.parent = Placement.enclosing entry.mark earlier := by
  obtain ⟨slug, hpath⟩ := enclosed_build hsplit
  rw [hpath, SlugPath.parent_child]

theorem child_base_mem {earlier later : List Placement} {entry : Placement}
    (hsplit : placements document text options = earlier ++ entry :: later) :
    entry.path.parent.child entry.mark.base ∈ (earlier ++ [entry]).map Placement.path := by
  rw [parent_path hsplit, List.map_append, List.mem_append]
  by_cases htaken : (Placement.enclosing entry.mark earlier).child entry.mark.base ∈
      earlier.map Placement.path
  · exact .inl htaken
  · exact .inr (by simp [(namedAfter_of_placements hsplit).own htaken])

theorem parent_ne_of_heading_before_leaf {earlier later : List Placement} {leaf heading : Placement}
    (hsplit : placements document text options = earlier ++ leaf :: later)
    (hleaf : leaf.mark.isHeading = false) (hmem : heading ∈ earlier)
    (hheading : heading.mark.isHeading) : heading.path.parent ≠ leaf.path.parent := by
  obtain ⟨before, after, rfl⟩ := List.append_of_mem hmem
  obtain ⟨last, hlast⟩ : ∃ last, ((heading :: after).filter fun entry =>
      entry.mark.isHeading).getLast? = some last := by
    simp [hheading, List.getLast?_cons]
  have hlater : last ∈ heading :: after ++ leaf :: later :=
    List.mem_append_left _ (List.mem_filter.mp (List.mem_of_getLast? hlast)).1
  have hbelow : leaf.path.parent = last.path := by
    rw [parent_path hsplit, Placement.enclosing_leaf hleaf, List.filter_append,
      List.getLast?_append, hlast]
    rfl
  have hbefore : placements document text options =
      before ++ (heading :: after ++ leaf :: later) := by simp [hsplit]
  intro hsame
  have henclosing : Placement.enclosing heading.mark before = last.path := by
    rw [← hbelow, ← hsame, parent_path hbefore]
  rcases Placement.enclosing_eq_root_or_mem heading.mark before with
    hroot | ⟨other, hother, -, hpath⟩
  · have hlisted : last ∈ placements document text options := by
      rw [hbefore]
      exact List.mem_append_right _ hlater
    obtain ⟨parent, slug, hchild, -⟩ := exists_child_of_mem hlisted
    exact SlugPath.child_ne_root parent slug (hchild.symm.trans (henclosing.symm.trans hroot))
  · exact path_ne_of_split hbefore hother hlater (hpath.trans henclosing)

end Index

end Sections
