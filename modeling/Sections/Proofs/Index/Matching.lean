import Mathlib.Data.List.Find
import Sections.Proofs.Index.Numbering
import Sections.Proofs.Text.Split

/-!
# Walks that leave out some leaves

Two walks visit the same landmarks, but one of them leaves out some leaves.  The headings are the
same, so the outline is: a landmark stands below corresponding headings in both, and its bytes are
the same.  A leaf that is left out makes a difference for the names only, and only beside itself:
for slugs that are its own word, perhaps with numbers behind it.
-/

namespace Sections

/-! ## Words and numbers -/

/-- A word, perhaps with numbers behind it. -/
inductive Numbered (word : String) : String → Prop
  | self : Numbered word word
  | suffixed {slug : String} (hslug : Numbered word slug) (suffix : Nat) :
    Numbered word (SiblingSlugs.suffixed slug suffix)

theorem SiblingSlugs.base_eq_of_suffixed_eq {base other : String} {suffix number : Nat}
    (h : suffixed base suffix = suffixed other number) : base = other := by
  have hchars := congrArg (fun slug => slug.toList.reverse) h
  simp only [toList_suffixed, List.reverse_append, List.reverse_cons, List.append_assoc,
    List.singleton_append] at hchars
  have hdigits (number : Nat) : '-' ∉ (Nat.toDigits 10 number).reverse := by
    simpa using hyphen_notMem_decimal number
  have hbase := (front_eq_of_append_cons_eq (hdigits suffix) (hdigits number) hchars).2
  exact String.toList_injective (List.reverse_injective hbase)

namespace Numbered

variable {word slug : String}

theorem of_suffixed (hword : '-' ∉ word.toList) {suffix : Nat}
    (h : Numbered word (SiblingSlugs.suffixed slug suffix)) : Numbered word slug := by
  generalize hwhole : SiblingSlugs.suffixed slug suffix = whole at h
  cases h with
  | self =>
      rw [← hwhole, SiblingSlugs.toList_suffixed] at hword
      simp at hword
  | suffixed hslug number =>
      rw [SiblingSlugs.base_eq_of_suffixed_eq hwhole]
      exact hslug

theorem isPrefix (h : Numbered word slug) : word.toList <+: slug.toList := by
  induction h with
  | self => exact List.prefix_rfl
  | suffixed _ suffix ih =>
      rw [SiblingSlugs.toList_suffixed]
      exact ih.trans (List.prefix_append _ _)

end Numbered

/-! ## The outline -/

def Placement.headingMarks (placed : List Placement) : List Landmark :=
  (placed.map Placement.mark).filter Landmark.isHeading

theorem Landmark.isHeading_of_closes {next mark : Landmark} (h : next.closes mark) :
    next.isHeading := by
  by_contra hleaf
  rw [leaf_closes (by simpa using hleaf)] at h
  cases h

theorem Landmark.find?_closes (mark : Landmark) (later : List Placement) :
    (later.find? fun next => next.mark.closes mark).map Placement.mark =
      (Placement.headingMarks later).find? fun next => next.closes mark := by
  rw [Placement.headingMarks, List.find?_filter, List.find?_map]
  refine congrArg _ (List.find?_congr ?_)
  intro next _
  have hheading : next.mark.closes mark → next.mark.isHeading := isHeading_of_closes
  simpa using hheading

theorem Landmark.extent_congr {later later' : List Placement}
    (h : Placement.headingMarks later = Placement.headingMarks later') (lines : LineIndex)
    (mark : Landmark) : mark.extent lines later = mark.extent lines later' := by
  have hfind : (later.find? fun next => next.mark.closes mark).map Placement.mark =
      (later'.find? fun next => next.mark.closes mark).map Placement.mark := by
    rw [find?_closes, find?_closes, h]
  unfold extent
  cases hnext : later.find? fun next => next.mark.closes mark with
  | none =>
      have hnone := Option.map_eq_none_iff.mp (hfind.symm.trans (by rw [hnext]; rfl))
      simp [hnone]
  | some next =>
      obtain ⟨next', hnext', hmark⟩ :=
        Option.map_eq_some_iff.mp (hfind.symm.trans (by rw [hnext]; rfl))
      simp [hnext', hmark]

theorem Landmark.staysOpen_congr {later later' : List Placement}
    (h : Placement.headingMarks later = Placement.headingMarks later') (mark : Landmark) :
    mark.staysOpen later = mark.staysOpen later' := by
  have hany (later : List Placement) : (later.any fun next => next.mark.closes mark) =
      ((Placement.headingMarks later).find? fun next => next.closes mark).isSome := by
    rw [← find?_closes, Option.isSome_map, List.isSome_find?]
  rw [staysOpen, staysOpen, hany, hany, h]

namespace Placement

def LeavesOut (keep : Landmark → Bool) (placed : List Placement) : Prop :=
  ∀ entry ∈ placed, keep entry.mark = false →
    entry.mark.isHeading = false ∧ '-' ∉ entry.mark.base.toList

def kept (keep : Landmark → Bool) (placed : List Placement) : List Placement :=
  placed.filter fun entry => keep entry.mark

section

variable {keep : Landmark → Bool}

theorem LeavesOut.headingMarks_kept {placed : List Placement} (hleaves : LeavesOut keep placed) :
    headingMarks (kept keep placed) = headingMarks placed := by
  rw [headingMarks, headingMarks, kept, List.filter_map, List.filter_map, List.filter_filter]
  refine congrArg _ (List.filter_congr ?_)
  intro entry hentry
  cases hkeep : keep entry.mark with
  | true => simp
  | false => simp [(hleaves entry hentry hkeep).1]

theorem LeavesOut.openHeadings_kept {placed : List Placement} (hleaves : LeavesOut keep placed) :
    openHeadings (kept keep placed) = openHeadings placed := by
  induction placed with
  | nil => rfl
  | cons first later ih =>
      obtain ⟨hfirst, hlater⟩ := List.forall_mem_cons.mp hleaves
      have hrest := ih hlater
      cases hkeep : keep first.mark with
      | true =>
          have hstays := Landmark.staysOpen_congr (LeavesOut.headingMarks_kept hlater) first.mark
          rw [kept] at hrest hstays
          simp [kept, hkeep, openHeadings, hrest, hstays]
      | false =>
          rw [kept] at hrest
          simp [kept, hkeep, openHeadings, hrest, Landmark.staysOpen, (hfirst hkeep).1]

end

section

variable {pairs : List (Placement × Placement)}

theorem headingMarks_congr (hmarks : ∀ pair ∈ pairs, pair.1.mark = pair.2.mark) :
    headingMarks (pairs.map Prod.fst) = headingMarks (pairs.map Prod.snd) := by
  rw [headingMarks, headingMarks, List.map_map, List.map_map]
  exact congrArg _ (List.map_congr_left hmarks)

theorem exists_openHeadings (hmarks : ∀ pair ∈ pairs, pair.1.mark = pair.2.mark) :
    ∃ opened, opened ⊆ pairs ∧ openHeadings (pairs.map Prod.fst) = opened.map Prod.fst ∧
      openHeadings (pairs.map Prod.snd) = opened.map Prod.snd := by
  induction pairs with
  | nil => exact ⟨[], List.Subset.refl _, rfl, rfl⟩
  | cons pair later ih =>
      obtain ⟨hmark, hlater⟩ := List.forall_mem_cons.mp hmarks
      obtain ⟨opened, hsubset, hfirst, hsecond⟩ := ih hlater
      have hstays := Landmark.staysOpen_congr (headingMarks_congr hlater) pair.1.mark
      refine ⟨opened ++ if pair.1.mark.staysOpen (later.map Prod.fst) then [pair] else [],
        ?_, ?_, ?_⟩
      · refine List.append_subset.mpr ⟨List.subset_cons_of_subset _ hsubset, ?_⟩
        split
        · exact List.cons_subset.mpr ⟨List.mem_cons_self, List.nil_subset _⟩
        · exact List.nil_subset _
      · rw [List.map_cons, openHeadings, hfirst, List.map_append]
        split <;> rfl
      · rw [List.map_cons, openHeadings, hsecond, List.map_append, ← hmark, ← hstays]
        split <;> rfl

def Corresponds (pairs : List (Placement × Placement)) (stem stem' : SlugPath) : Prop :=
  (stem = .root ∧ stem' = .root) ∨ ∃ above ∈ pairs, stem = above.1.path ∧ stem' = above.2.path

theorem Corresponds.append {stem stem' : SlugPath} (hstems : Corresponds pairs stem stem')
    (more : List (Placement × Placement)) : Corresponds (pairs ++ more) stem stem' := by
  rcases hstems with hroot | ⟨above, habove, hsame⟩
  · exact .inl hroot
  · exact .inr ⟨above, List.mem_append_left _ habove, hsame⟩

theorem corresponds_enclosing (hmarks : ∀ pair ∈ pairs, pair.1.mark = pair.2.mark)
    (mark : Landmark) :
    Corresponds pairs (enclosing mark (pairs.map Prod.fst))
      (enclosing mark (pairs.map Prod.snd)) := by
  obtain ⟨opened, hsubset, hfirst, hsecond⟩ := exists_openHeadings hmarks
  have hfind : (opened.find? fun pair => !mark.closes pair.1.mark) =
      opened.find? fun pair => !mark.closes pair.2.mark :=
    List.find?_congr fun pair hpair => by rw [hmarks pair (hsubset hpair)]
  rw [enclosing, enclosing, hfirst, hsecond, List.find?_map, List.find?_map]
  simp only [Function.comp_def]
  rw [hfind]
  cases hfound : opened.find? fun pair => !mark.closes pair.2.mark with
  | none => exact .inl ⟨rfl, rfl⟩
  | some above => exact .inr ⟨above, hsubset (List.mem_of_find?_eq_some hfound), rfl, rfl⟩

end

/-! ## Names -/

def Named (placed : List Placement) : Prop :=
  ∀ earlier entry later, placed = earlier ++ entry :: later →
    ∃ slug, entry.path = (enclosing entry.mark earlier).child slug ∧
      LeastFree (fun name => (enclosing entry.mark earlier).child name ∈ earlier.map path)
        entry.mark.base slug

theorem Named.front {front back : List Placement} (hnamed : Named (front ++ back)) :
    Named front := by
  intro earlier entry later hsplit
  exact hnamed earlier entry (later ++ back) (by simp [hsplit])

theorem Named.last {front : List Placement} {entry : Placement}
    (hnamed : Named (front ++ [entry])) :
    ∃ slug, entry.path = (enclosing entry.mark front).child slug ∧
      LeastFree (fun name => (enclosing entry.mark front).child name ∈ front.map path)
        entry.mark.base slug :=
  hnamed front entry [] rfl

theorem Named.exists_child {placed : List Placement} (hnamed : Named placed) {entry : Placement}
    (hentry : entry ∈ placed) :
    ∃ slug taken, entry.path = entry.path.parent.child slug ∧
      LeastFree taken entry.mark.base slug := by
  obtain ⟨earlier, later, hsplit⟩ := List.append_of_mem hentry
  obtain ⟨slug, hpath, hslug⟩ := hnamed earlier entry later hsplit
  exact ⟨slug, _, by rw [hpath, SlugPath.parent_child], hslug⟩

theorem Named.path_ne_root {placed : List Placement} (hnamed : Named placed) {entry : Placement}
    (hentry : entry ∈ placed) : entry.path ≠ .root := by
  obtain ⟨slug, -, hpath, -⟩ := hnamed.exists_child hentry
  rw [hpath]
  exact SlugPath.child_ne_root _ _

theorem Named.nodup {placed : List Placement} (hnamed : Named placed) :
    (placed.map path).Nodup := by
  induction placed using List.reverseRecOn with
  | nil => exact .nil
  | append_singleton front last ih =>
      obtain ⟨slug, hpath, hslug⟩ := hnamed.last
      rw [List.map_append, List.map_singleton, ← List.concat_eq_append]
      refine (ih hnamed.front).concat ?_
      rw [hpath]
      exact hslug.free

/-- Whether a leaf that is left out stands below a parent and has a say in the names there. -/
def Contested (keep : Landmark → Bool) (placed : List Placement) (parent : SlugPath)
    (slug : String) : Prop :=
  ∃ leaf ∈ placed, keep leaf.mark = false ∧ leaf.path.parent = parent ∧
    Numbered leaf.mark.base slug

section

variable {keep : Landmark → Bool} {placed : List Placement} {parent : SlugPath}
  {base slug : String}

theorem Contested.append (hcontested : Contested keep placed parent slug)
    (back : List Placement) : Contested keep (placed ++ back) parent slug := by
  obtain ⟨leaf, hleaf, hkeep, hparent, hslug⟩ := hcontested
  exact ⟨leaf, List.mem_append_left _ hleaf, hkeep, hparent, hslug⟩

theorem Contested.of_eq_or (hcontested : Contested keep placed parent base)
    (hslug : slug = base ∨ ∃ suffix, slug = SiblingSlugs.suffixed base suffix) :
    Contested keep placed parent slug := by
  obtain ⟨leaf, hleaf, hkeep, hparent, hbase⟩ := hcontested
  refine ⟨leaf, hleaf, hkeep, hparent, ?_⟩
  rcases hslug with rfl | ⟨suffix, rfl⟩
  · exact hbase
  · exact hbase.suffixed suffix

theorem LeavesOut.contested_of_suffixed (hleaves : LeavesOut keep placed) {suffix : Nat}
    (hcontested : Contested keep placed parent (SiblingSlugs.suffixed base suffix)) :
    Contested keep placed parent base := by
  obtain ⟨leaf, hleaf, hkeep, hparent, hslug⟩ := hcontested
  exact ⟨leaf, hleaf, hkeep, hparent, hslug.of_suffixed (hleaves leaf hleaf hkeep).2⟩

end

structure Matches (keep : Landmark → Bool) (few many : List Placement)
    (pairs : List (Placement × Placement)) : Prop where
  first : pairs.map Prod.fst = few
  second : pairs.map Prod.snd = kept keep many
  marks : ∀ pair ∈ pairs, pair.1.mark = pair.2.mark
  parents : ∀ pair ∈ pairs, Corresponds pairs pair.1.path.parent pair.2.path.parent
  names : ∀ pair ∈ pairs, ¬Contested keep many pair.2.path.parent pair.2.mark.base →
    ∃ slug, pair.1.path = pair.1.path.parent.child slug ∧
      pair.2.path = pair.2.path.parent.child slug

namespace Matches

variable {keep : Landmark → Bool} {few many : List Placement}
  {pairs : List (Placement × Placement)} {pair : Placement × Placement}

theorem mem_few (hmatches : Matches keep few many pairs) (hpair : pair ∈ pairs) : pair.1 ∈ few :=
  hmatches.first ▸ List.mem_map_of_mem hpair

theorem mem_many (hmatches : Matches keep few many pairs) (hpair : pair ∈ pairs) :
    pair.2 ∈ many :=
  List.mem_of_mem_filter (hmatches.second ▸ List.mem_map_of_mem hpair)

theorem path_iff (hmatches : Matches keep few many pairs) (hfew : Named few) (hmany : Named many)
    {other : Placement × Placement} (hpair : pair ∈ pairs) (hother : other ∈ pairs) :
    pair.1.path = other.1.path ↔ pair.2.path = other.2.path := by
  have hnodup : (pairs.map fun pair => pair.1.path).Nodup := by
    have hpaths := hfew.nodup
    rwa [← hmatches.first, List.map_map] at hpaths
  have hnodup' : (pairs.map fun pair => pair.2.path).Nodup := by
    have hpaths : ((kept keep many).map path).Nodup :=
      hmany.nodup.sublist (List.filter_sublist.map path)
    rwa [← hmatches.second, List.map_map] at hpaths
  constructor
  · intro heq
    rw [List.inj_on_of_nodup_map hnodup hpair hother heq]
  · intro heq
    rw [List.inj_on_of_nodup_map hnodup' hpair hother heq]

theorem corresponds_iff (hmatches : Matches keep few many pairs) (hfew : Named few)
    (hmany : Named many) {stem stem' other other' : SlugPath}
    (hstems : Corresponds pairs stem stem') (hothers : Corresponds pairs other other') :
    stem = other ↔ stem' = other' := by
  have hroot {above : Placement × Placement} (habove : above ∈ pairs) :
      above.1.path ≠ .root ∧ above.2.path ≠ .root :=
    ⟨hfew.path_ne_root (hmatches.mem_few habove), hmany.path_ne_root (hmatches.mem_many habove)⟩
  rcases hstems with ⟨rfl, rfl⟩ | ⟨above, habove, rfl, rfl⟩ <;>
    rcases hothers with ⟨rfl, rfl⟩ | ⟨top, htop, rfl, rfl⟩
  · simp
  · simp [(hroot htop).1.symm, (hroot htop).2.symm]
  · simp [(hroot habove).1, (hroot habove).2]
  · exact hmatches.path_iff hfew hmany habove htop

theorem names_of_eq_or (hmatches : Matches keep few many pairs) (hpair : pair ∈ pairs)
    {name : String} (hfree : ¬Contested keep many pair.2.path.parent name)
    (hname : name = pair.2.mark.base ∨
      ∃ suffix, name = SiblingSlugs.suffixed pair.2.mark.base suffix) :
    ∃ slug, pair.1.path = pair.1.path.parent.child slug ∧
      pair.2.path = pair.2.path.parent.child slug :=
  hmatches.names pair hpair fun hcontested => hfree (hcontested.of_eq_or hname)

theorem child_iff (hmatches : Matches keep few many pairs) (hfew : Named few) (hmany : Named many)
    {stem stem' : SlugPath} (hstems : Corresponds pairs stem stem') (hpair : pair ∈ pairs)
    {name : String} (hfree : ¬Contested keep many stem' name) :
    pair.1.path = stem.child name ↔ pair.2.path = stem'.child name := by
  have hbelow := hmatches.corresponds_iff hfew hmany (hmatches.parents pair hpair) hstems
  constructor
  · intro hpath
    have hstem : pair.1.path.parent = stem := by rw [hpath, SlugPath.parent_child]
    obtain ⟨slug, taken, hown, hslug⟩ := hfew.exists_child (hmatches.mem_few hpair)
    obtain ⟨-, rfl⟩ := SlugPath.child_injective (hown.symm.trans hpath)
    rw [hmatches.marks pair hpair] at hslug
    rw [← hbelow.mp hstem] at hfree ⊢
    obtain ⟨common, hfirst, hsecond⟩ := hmatches.names_of_eq_or hpair hfree hslug.eq_or
    obtain ⟨-, rfl⟩ := SlugPath.child_injective (hfirst.symm.trans hown)
    exact hsecond
  · intro hpath
    have hstem : pair.2.path.parent = stem' := by rw [hpath, SlugPath.parent_child]
    obtain ⟨slug, taken, hown, hslug⟩ := hmany.exists_child (hmatches.mem_many hpair)
    obtain ⟨-, rfl⟩ := SlugPath.child_injective (hown.symm.trans hpath)
    rw [← hstem] at hfree
    rw [← hbelow.mpr hstem]
    obtain ⟨common, hfirst, hsecond⟩ := hmatches.names_of_eq_or hpair hfree hslug.eq_or
    obtain ⟨-, rfl⟩ := SlugPath.child_injective (hsecond.symm.trans hown)
    exact hfirst

theorem taken_iff (hmatches : Matches keep few many pairs) (hfew : Named few) (hmany : Named many)
    {stem stem' : SlugPath} (hstems : Corresponds pairs stem stem') {name : String}
    (hfree : ¬Contested keep many stem' name) :
    stem.child name ∈ few.map path ↔ stem'.child name ∈ many.map path := by
  constructor
  · intro htaken
    rw [← hmatches.first, List.map_map] at htaken
    obtain ⟨pair, hpair, hpath⟩ := List.mem_map.mp htaken
    rw [← (hmatches.child_iff hfew hmany hstems hpair hfree).mp hpath]
    exact List.mem_map_of_mem (hmatches.mem_many hpair)
  · intro htaken
    obtain ⟨entry, hentry, hpath⟩ := List.mem_map.mp htaken
    have hkeep : keep entry.mark := by
      by_contra hleft
      obtain ⟨slug, taken, hown, hslug⟩ := hmany.exists_child hentry
      obtain ⟨-, rfl⟩ := SlugPath.child_injective (hown.symm.trans hpath)
      have hself : Contested keep many stem' entry.mark.base :=
        ⟨entry, hentry, by simpa using hleft, by rw [hpath, SlugPath.parent_child], .self⟩
      exact hfree (hself.of_eq_or hslug.eq_or)
    have hkept : entry ∈ pairs.map Prod.snd := by
      rw [hmatches.second]
      exact List.mem_filter.mpr ⟨hentry, hkeep⟩
    obtain ⟨pair, hpair, rfl⟩ := List.mem_map.mp hkept
    rw [← (hmatches.child_iff hfew hmany hstems hpair hfree).mpr hpath]
    exact List.mem_map_of_mem (hmatches.mem_few hpair)

theorem name_eq (hmatches : Matches keep few many pairs) (hleaves : LeavesOut keep many)
    (hfew : Named few) (hmany : Named many) {stem stem' : SlugPath}
    (hstems : Corresponds pairs stem stem') {base slug slug' : String}
    (hfree : ¬Contested keep many stem' base)
    (hslug : LeastFree (fun name => stem.child name ∈ few.map path) base slug)
    (hslug' : LeastFree (fun name => stem'.child name ∈ many.map path) base slug') :
    slug = slug' :=
  hslug.eq hslug' (hmatches.taken_iff hfew hmany hstems hfree) fun _ =>
    hmatches.taken_iff hfew hmany hstems (mt hleaves.contested_of_suffixed hfree)

theorem leave (hmatches : Matches keep few many pairs) {last : Placement}
    (hleft : keep last.mark = false) : Matches keep few (many ++ [last]) pairs where
  first := hmatches.first
  second := by simp [hmatches.second, kept, hleft]
  marks := hmatches.marks
  parents := hmatches.parents
  names := fun pair hpair hquiet => hmatches.names pair hpair (mt (Contested.append · _) hquiet)

theorem add (hmatches : Matches keep few many pairs) {entry last : Placement}
    (hmark : entry.mark = last.mark) (hkeep : keep last.mark)
    (hleaves : LeavesOut keep many) (hfew : Named (few ++ [entry]))
    (hmany : Named (many ++ [last])) :
    Matches keep (few ++ [entry]) (many ++ [last]) (pairs ++ [(entry, last)]) := by
  obtain ⟨slug, hpath, hslug⟩ := hfew.last
  obtain ⟨slug', hpath', hslug'⟩ := hmany.last
  have hkept : enclosing last.mark (kept keep many) = enclosing last.mark many := by
    rw [enclosing, enclosing, hleaves.openHeadings_kept]
  have hstems := corresponds_enclosing hmatches.marks last.mark
  rw [hmatches.first, hmatches.second, hkept] at hstems
  rw [hmark] at hpath hslug
  have hparent : entry.path.parent = enclosing last.mark few := by
    rw [hpath, SlugPath.parent_child]
  have hparent' : last.path.parent = enclosing last.mark many := by
    rw [hpath', SlugPath.parent_child]
  constructor
  case first => simp [hmatches.first]
  case second => simp [hmatches.second, kept, hkeep]
  case marks =>
    rw [List.forall_mem_append, List.forall_mem_singleton]
    exact ⟨hmatches.marks, hmark⟩
  case parents =>
    rw [List.forall_mem_append, List.forall_mem_singleton, hparent, hparent']
    exact ⟨fun pair hpair => (hmatches.parents pair hpair).append _, hstems.append _⟩
  case names =>
    rw [List.forall_mem_append, List.forall_mem_singleton]
    constructor
    · intro pair hpair hquiet
      exact hmatches.names pair hpair (mt (Contested.append · _) hquiet)
    · intro hquiet
      rw [hparent'] at hquiet
      have hsame : slug = slug' := hmatches.name_eq hleaves hfew.front hmany.front hstems
        (mt (Contested.append · _) hquiet) hslug hslug'
      refine ⟨slug, ?_, ?_⟩
      · rw [hparent]
        exact hpath
      · rw [hparent', hsame]
        exact hpath'

theorem path_eq_or (hmatches : Matches keep few many pairs) (hpair : pair ∈ pairs) :
    pair.1.path = pair.2.path ∨ ∃ above ∈ pairs,
      above.2.path.segments <+: pair.2.path.segments ∧
        Contested keep many above.2.path.parent above.2.mark.base := by
  induction hlength : pair.2.path.length using Nat.strong_induction_on generalizing pair with
  | _ length ih =>
      by_cases hquiet : Contested keep many pair.2.path.parent pair.2.mark.base
      · exact .inr ⟨pair, hpair, List.prefix_rfl, hquiet⟩
      · obtain ⟨slug, hfirst, hsecond⟩ := hmatches.names pair hpair hquiet
        rcases hmatches.parents pair hpair with ⟨hroot, hroot'⟩ | ⟨above, habove, hup, hup'⟩
        · exact .inl (by rw [hfirst, hsecond, hroot, hroot'])
        · rw [hup] at hfirst
          rw [hup'] at hsecond
          have hshorter : above.2.path.length < length := by
            rw [← hlength, hsecond, SlugPath.length_child]
            exact Nat.lt_succ_self _
          rcases ih _ hshorter habove rfl with hsame | ⟨top, htop, hprefix, hcontested⟩
          · exact .inl (by rw [hfirst, hsecond, hsame])
          · refine .inr ⟨top, htop, hprefix.trans ?_, hcontested⟩
            rw [hsecond]
            exact List.prefix_append _ _

theorem exists_splits (hmatches : Matches keep few many pairs) (hleaves : LeavesOut keep many)
    (hpair : pair ∈ pairs) :
    ∃ earlier later earlier' later', few = earlier ++ pair.1 :: later ∧
      many = earlier' ++ pair.2 :: later' ∧ headingMarks later = headingMarks later' := by
  obtain ⟨before, after, rfl⟩ := List.append_of_mem hpair
  have hkept : kept keep many = before.map Prod.snd ++ pair.2 :: after.map Prod.snd := by
    rw [← hmatches.second, List.map_append, List.map_cons]
  obtain ⟨earlier, rest, rfl, -, hrest⟩ := List.filter_eq_append_iff.mp hkept
  obtain ⟨skipped, later, rfl, -, -, hlater⟩ := List.filter_eq_cons_iff.mp hrest
  refine ⟨before.map Prod.fst, after.map Prod.fst, earlier ++ skipped, later, ?_, by simp, ?_⟩
  · rw [← hmatches.first, List.map_append, List.map_cons]
  · have hmarks : ∀ pair ∈ after, pair.1.mark = pair.2.mark :=
      fun other hother => hmatches.marks other (by simp [hother])
    have hoff : LeavesOut keep later := fun entry hentry => hleaves entry (by simp [hentry])
    calc headingMarks (after.map Prod.fst)
        = headingMarks (after.map Prod.snd) := headingMarks_congr hmarks
      _ = headingMarks (kept keep later) := by rw [← hlater, kept]
      _ = headingMarks later := hoff.headingMarks_kept

end Matches

theorem exists_matches {keep : Landmark → Bool} {few many : List Placement}
    (hleaves : LeavesOut keep many) (hfew : Named few) (hmany : Named many)
    (hmarks : few.map mark = (kept keep many).map mark) : ∃ pairs, Matches keep few many pairs := by
  induction many using List.reverseRecOn generalizing few with
  | nil =>
      have hnone : few = [] := List.map_eq_nil_iff.mp hmarks
      subst hnone
      refine ⟨[], ?_⟩
      constructor <;> simp [kept]
  | append_singleton front last ih =>
      have hoff : LeavesOut keep front :=
        fun entry hentry => hleaves entry (List.mem_append_left _ hentry)
      cases hkeep : keep last.mark with
      | false =>
          have hfront : few.map mark = (kept keep front).map mark := by
            simpa [kept, hkeep] using hmarks
          obtain ⟨pairs, hmatches⟩ := ih hoff hfew hmany.front hfront
          exact ⟨pairs, hmatches.leave hkeep⟩
      | true =>
          have hsplit : few.map mark = (kept keep front).map mark ++ [last.mark] := by
            simpa [kept, hkeep] using hmarks
          obtain ⟨fewer, entries, rfl, hfront, hlast⟩ := List.map_eq_append_iff.mp hsplit
          obtain ⟨entry, rfl, hmark⟩ := List.map_eq_singleton_iff.mp hlast
          obtain ⟨pairs, hmatches⟩ := ih hoff hfew.front hmany.front hfront
          exact ⟨pairs ++ [(entry, last)], hmatches.add hmark hkeep hoff hfew hmany⟩

end Placement

end Sections
