import Mathlib.Data.List.Induction
import Mathlib.Data.List.Perm.Basic
import Sections.Proofs.Index.Landmark
import Sections.Proofs.SlugPath

/-!
# The outline of a document

A heading is open until a later heading of the same or a shallower level closes it.  What is open
and what each section holds is a matter of the levels alone; the list of the recorded landmarks says
it all.
-/

namespace Sections

namespace Landmark

def isHeading (mark : Landmark) : Bool := mark.level?.isSome

/-- Whether the section of an earlier heading ends where a later one stands. -/
def closes (next mark : Landmark) : Bool :=
  match next.level?, mark.level? with
  | some later, some level => later ≤ level
  | _, _ => false

def staysOpen (mark : Landmark) (later : List Placement) : Bool :=
  mark.isHeading && !later.any fun next => next.mark.closes mark

/--
The bytes of a landmark that the given ones follow: the whole section of a heading, and of
anything else its own bytes.
-/
def extent (lines : LineIndex) (mark : Landmark) (later : List Placement) : Span :=
  let bytes := lines.span mark.source
  if mark.isHeading then
    match later.find? fun next => next.mark.closes mark with
    | some next => ⟨bytes.start, max (lines.span next.mark.source).start bytes.start⟩
    | none => ⟨bytes.start, lines.length⟩
  else bytes

theorem leaf_closes {next mark : Landmark} (hleaf : next.isHeading = false) :
    next.closes mark = false := by
  unfold closes
  cases hlevel : next.level? with
  | none => rfl
  | some level => simp [isHeading, hlevel] at hleaf

theorem closes_iff {next mark : Landmark} {level : Nat} (hlevel : next.level? = some level)
    (hheading : mark.isHeading) : next.closes mark = decide (level ≤ mark.level?.getD 0) := by
  obtain ⟨depth, hdepth⟩ := Option.isSome_iff_exists.mp hheading
  simp [closes, hlevel, hdepth]

theorem staysOpen_append (mark : Landmark) (later : List Placement) (entry : Placement) :
    mark.staysOpen (later ++ [entry]) = (mark.staysOpen later && !entry.mark.closes mark) := by
  simp [staysOpen, Bool.and_assoc]

theorem extent_append_of_open {mark : Landmark} {later : List Placement}
    (hopen : mark.staysOpen later) (lines : LineIndex) (more : List Placement) :
    mark.extent lines (later ++ more) = mark.extent lines more := by
  have hnone : (later.find? fun next => next.mark.closes mark) = none := by
    simpa using (Bool.and_eq_true_iff.mp hopen).2
  unfold extent
  rw [List.find?_append, hnone, Option.none_or]

theorem extent_append_of_closed {mark : Landmark} {later : List Placement}
    (hclosed : mark.staysOpen later = false) (lines : LineIndex) (more : List Placement) :
    mark.extent lines (later ++ more) = mark.extent lines later := by
  unfold extent
  split
  · next hheading =>
      have hany : later.any fun next => next.mark.closes mark := by
        simpa [staysOpen, hheading] using hclosed
      obtain ⟨next, hnext⟩ :=
        Option.isSome_iff_exists.mp (List.find?_isSome.mpr (by simpa using hany))
      rw [List.find?_append, hnext]
      rfl
  · rfl

end Landmark

namespace Placement

/-- The headings that no later one closes, the last one first. -/
def openHeadings : List Placement → List Placement
  | [] => []
  | entry :: later => openHeadings later ++ if entry.mark.staysOpen later then [entry] else []

/--
The path that a landmark stands below: of the last heading that is open where it stands
and that it does not close itself.
-/
def enclosing (mark : Landmark) (earlier : List Placement) : SlugPath :=
  match (openHeadings earlier).find? fun heading => !mark.closes heading.mark with
  | some heading => heading.path
  | none => .root

def settled (lines : LineIndex) : List Placement → List (Placement × Span)
  | [] => []
  | entry :: later =>
    (if entry.mark.staysOpen later then [] else [(entry, entry.mark.extent lines later)]) ++
      settled lines later

def sections (lines : LineIndex) : List Placement → List (Placement × Span)
  | [] => []
  | entry :: later => (entry, entry.mark.extent lines later) :: sections lines later

theorem mem_of_mem_openHeadings {entry : Placement} {done : List Placement}
    (hopen : entry ∈ openHeadings done) : entry ∈ done ∧ entry.mark.isHeading := by
  induction done with
  | nil => simp [openHeadings] at hopen
  | cons first later ih =>
      rw [openHeadings, List.mem_append] at hopen
      cases hopen with
      | inl hlater => exact ⟨List.mem_cons_of_mem first (ih hlater).1, (ih hlater).2⟩
      | inr hfirst =>
          by_cases h : first.mark.staysOpen later
          · obtain rfl : entry = first := by simpa [h] using hfirst
            exact ⟨List.mem_cons_self, (Bool.and_eq_true_iff.mp h).1⟩
          · simp [h] at hfirst

theorem openHeadings_pairwise (done : List Placement) :
    (openHeadings done).Pairwise fun inner outer => inner.mark.closes outer.mark = false := by
  induction done with
  | nil => exact .nil
  | cons first later ih =>
      unfold openHeadings
      by_cases h : first.mark.staysOpen later
      · have hnone : ∀ next ∈ later, next.mark.closes first.mark = false := by
          simpa using (Bool.and_eq_true_iff.mp h).2
        rw [if_pos h]
        refine List.pairwise_append.mpr ⟨ih, List.pairwise_singleton _ _, ?_⟩
        intro inner hinner outer houter
        rw [List.mem_singleton.mp houter]
        exact hnone inner (mem_of_mem_openHeadings hinner).1
      · simpa [h] using ih

theorem openHeadings_append (done : List Placement) (entry : Placement) :
    openHeadings (done ++ [entry]) =
      (if entry.mark.isHeading then [entry] else []) ++
        (openHeadings done).filter fun heading => !entry.mark.closes heading.mark := by
  induction done with
  | nil => simp [openHeadings, Landmark.staysOpen]
  | cons first later ih =>
      rw [List.cons_append, openHeadings, ih, openHeadings, Landmark.staysOpen_append]
      by_cases hfirst : first.mark.staysOpen later <;>
        by_cases hentry : entry.mark.closes first.mark <;> simp [hfirst, hentry]

theorem head?_openHeadings (done : List Placement) :
    (openHeadings done).head? = (done.filter fun entry => entry.mark.isHeading).getLast? := by
  induction done using List.reverseRecOn with
  | nil => rfl
  | append_singleton front last ih =>
      rw [openHeadings_append, List.filter_append]
      cases hlast : last.mark.isHeading with
      | true => simp [hlast]
      | false => simp [Landmark.leaf_closes hlast, hlast, ih]

theorem settled_append (lines : LineIndex) (done : List Placement) (entry : Placement) :
    (settled lines (done ++ [entry])).Perm
      ((if entry.mark.isHeading then [] else [(entry, lines.span entry.mark.source)]) ++
        ((openHeadings done).filter fun heading => entry.mark.closes heading.mark).map
          (fun heading => (heading, heading.mark.extent lines [entry])) ++
        settled lines done) := by
  induction done with
  | nil =>
      cases hentry : entry.mark.isHeading <;>
        simp [settled, openHeadings, Landmark.extent, Landmark.staysOpen, hentry]
  | cons first later ih =>
      rw [List.cons_append, settled, settled, openHeadings, Landmark.staysOpen_append]
      cases hfirst : first.mark.staysOpen later with
      | false =>
          rw [Landmark.extent_append_of_closed hfirst]
          simpa using (ih.cons _).trans List.perm_middle.symm
      | true =>
          rw [Landmark.extent_append_of_open hfirst]
          cases hentry : entry.mark.closes first.mark with
          | false => simpa [hentry] using ih
          | true =>
              have hheading : entry.mark.isHeading := by
                by_contra hleaf
                simp [Landmark.leaf_closes (by simpa using hleaf)] at hentry
              simpa [hentry, hheading] using (ih.cons _).trans
                (by simpa [hheading] using List.perm_middle.symm)

theorem settled_append_open (lines : LineIndex) (done : List Placement) :
    ((openHeadings done).map (fun heading => (heading, heading.mark.extent lines [])) ++
      settled lines done).Perm (sections lines done) := by
  induction done with
  | nil => exact .nil
  | cons first later ih =>
      rw [openHeadings, settled, sections]
      cases hfirst : first.mark.staysOpen later with
      | false => simpa using List.perm_middle.trans (ih.cons _)
      | true =>
          rw [← List.append_nil later, Landmark.extent_append_of_open hfirst, List.append_nil]
          simpa using List.perm_middle.trans (ih.cons _)

theorem map_fst_sections (lines : LineIndex) (done : List Placement) :
    (sections lines done).map Prod.fst = done := by
  induction done with
  | nil => rfl
  | cons first later ih => simp [sections, ih]

theorem openHeadings_append_settled (lines : LineIndex) (done : List Placement) :
    (openHeadings done ++ (settled lines done).map Prod.fst).Perm done := by
  have hperm := (settled_append_open lines done).map Prod.fst
  rw [map_fst_sections] at hperm
  simpa [Function.comp_def] using hperm

theorem mem_sections {lines : LineIndex} {earlier later : List Placement} {entry : Placement} :
    (entry, entry.mark.extent lines later) ∈ sections lines (earlier ++ entry :: later) := by
  induction earlier with
  | nil => exact List.mem_cons_self
  | cons first earlier ih => exact List.mem_cons_of_mem _ ih

theorem enclosing_eq_root_or_mem (mark : Landmark) (earlier : List Placement) :
    enclosing mark earlier = .root ∨
      ∃ heading ∈ earlier, heading.mark.isHeading ∧ heading.path = enclosing mark earlier := by
  unfold enclosing
  split
  · next heading hfind =>
      obtain ⟨hmem, hheading⟩ := mem_of_mem_openHeadings (List.mem_of_find?_eq_some hfind)
      exact .inr ⟨heading, hmem, hheading, rfl⟩
  · exact .inl rfl

theorem enclosing_leaf {mark : Landmark} (hleaf : mark.isHeading = false)
    (earlier : List Placement) :
    enclosing mark earlier =
      match (earlier.filter fun entry => entry.mark.isHeading).getLast? with
      | some heading => heading.path
      | none => .root := by
  have hfirst : ((openHeadings earlier).find? fun heading => !mark.closes heading.mark) =
      (openHeadings earlier).head? := by
    cases openHeadings earlier with
    | nil => rfl
    | cons heading rest => simp [Landmark.leaf_closes hleaf]
  rw [enclosing, hfirst, head?_openHeadings]

theorem exists_heading_of_stem {placed : List Placement}
    (henclosed : ∀ earlier entry later, placed = earlier ++ entry :: later →
      ∃ slug, entry.path = (enclosing entry.mark earlier).child slug)
    {entry : Placement} (hentry : entry ∈ placed) {stem : SlugPath} (hroot : stem ≠ .root)
    (hstem : stem.segments <+: entry.path.segments) (hne : stem ≠ entry.path) :
    ∃ heading ∈ placed, heading.mark.isHeading ∧ heading.path = stem := by
  induction placed using List.reverseRecOn generalizing entry with
  | nil => simp at hentry
  | append_singleton front last ih =>
      have hfront : ∀ earlier entry later, front = earlier ++ entry :: later →
          ∃ slug, entry.path = (enclosing entry.mark earlier).child slug := by
        intro earlier entry later hsplit
        exact henclosed earlier entry (later ++ [last]) (by simp [hsplit])
      have hbelow {heading : Placement} (hmem : heading ∈ front)
          (habove : stem.segments <+: heading.path.segments) (hproper : stem ≠ heading.path) :
          ∃ heading ∈ front ++ [last], heading.mark.isHeading ∧ heading.path = stem := by
        obtain ⟨found, hfound, hspec⟩ := ih hfront hmem habove hproper
        exact ⟨found, List.mem_append_left _ hfound, hspec⟩
      rcases List.mem_append.mp hentry with hmem | hself
      · exact hbelow hmem hstem hne
      · rw [List.mem_singleton.mp hself] at hstem hne
        obtain ⟨slug, hpath⟩ := henclosed front last [] rfl
        rw [hpath] at hstem hne
        have hshort := SlugPath.prefix_of_prefix_child hstem hne
        rcases enclosing_eq_root_or_mem last.mark front with
          hnone | ⟨heading, hmem, hheading, hfound⟩
        · rw [hnone] at hshort
          exact absurd (SlugPath.eq_root_of_prefix hshort) hroot
        · by_cases heq : stem = heading.path
          · exact ⟨heading, List.mem_append_left _ hmem, hheading, heq.symm⟩
          · exact hbelow hmem (by rwa [hfound]) heq

end Placement

end Sections
