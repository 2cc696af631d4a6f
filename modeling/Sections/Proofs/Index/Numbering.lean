import Sections.Proofs.Index.Naming
import Sections.Proofs.Slug.Siblings

/-!
# Which number a name gets

Below each parent the landmarks get the least names that are free.  So the name of a landmark
depends on the names before it and on nothing else.
-/

namespace Sections

namespace Index.Walk

variable {lines : LineIndex} {done : List Placement} {walk : Walk}

def siblingsBelow (walk : Walk) (parent : SlugPath) : SiblingSlugs :=
  (walk.siblings.lookup parent).getD {}

theorem siblingsBelow_claim_self (walk : Walk) (base : String) :
    (walk.claim base).2.siblingsBelow walk.path =
      ((walk.siblingsBelow walk.path).claim base).2 := by
  simp [siblingsBelow, claim]

theorem siblingsBelow_claim_of_ne (walk : Walk) (base : String) {parent : SlugPath}
    (hne : parent ≠ walk.path) :
    (walk.claim base).2.siblingsBelow parent = walk.siblingsBelow parent := by
  have hbeq : (parent == walk.path) = false := by simpa using hne
  simp [siblingsBelow, claim, List.lookup_cons, hbeq, lookup_filter_ne hne]

theorem siblings_record (lines : LineIndex) (walk : Walk) (mark : Landmark) :
    (walk.record lines mark).siblings =
      ((walk.makeReady lines mark).claim mark.base).2.siblings := by
  unfold Walk.record
  cases mark.level? <;> rfl

def Counted (walk : Walk) : Prop := ∀ parent, (walk.siblingsBelow parent).Counted

theorem counted_start : Counted {} := fun _ => SiblingSlugs.counted_empty

theorem Counted.record (hcounted : walk.Counted) (lines : LineIndex) (mark : Landmark) :
    (walk.record lines mark).Counted := by
  intro parent
  have hready (parent : SlugPath) : ((walk.makeReady lines mark).siblingsBelow parent).Counted := by
    simpa [siblingsBelow, siblings_makeReady] using hcounted parent
  have hrecord : (walk.record lines mark).siblingsBelow parent =
      ((walk.makeReady lines mark).claim mark.base).2.siblingsBelow parent := by
    rw [siblingsBelow, siblings_record]
    rfl
  rw [hrecord]
  by_cases hparent : parent = (walk.makeReady lines mark).path
  · subst hparent
    rw [siblingsBelow_claim_self]
    exact (hready _).claim mark.base
  · rw [siblingsBelow_claim_of_ne _ _ hparent]
    exact hready parent

theorem Counted.foldl (hcounted : walk.Counted) (lines : LineIndex) (marks : List Landmark) :
    (marks.foldl (Walk.record lines) walk).Counted := by
  induction marks generalizing walk with
  | nil => exact hcounted
  | cons mark rest ih => exact ih (hcounted.record lines mark)

theorem Tracks.leastFree (htracks : Tracks lines done walk) (hremembers : Remembers done walk)
    (hcounted : walk.Counted) (mark : Landmark) :
    ∃ slug, walk.address lines mark = (Placement.enclosing mark done).child slug ∧
      LeastFree (fun name => (Placement.enclosing mark done).child name ∈ done.map Placement.path)
        mark.base slug := by
  refine ⟨((walk.makeReady lines mark).claim mark.base).1, ?_, ?_⟩
  · rw [← htracks.path_makeReady]
    rfl
  · have hready : ((walk.makeReady lines mark).siblingsBelow
        (walk.makeReady lines mark).path).Counted := by
      simpa [siblingsBelow, siblings_makeReady] using hcounted (walk.makeReady lines mark).path
    have hnames : (fun name => (Placement.enclosing mark done).child name ∈
        done.map Placement.path) = (· ∈ ((walk.makeReady lines mark).siblingsBelow
          (walk.makeReady lines mark).path).used) := by
      funext name
      rw [← hremembers, ← htracks.path_makeReady]
      simp [usedBelow, siblingsBelow, siblings_makeReady]
    rw [hnames]
    exact hready.leastFree mark.base

end Index.Walk

theorem Index.leastFree_of_placements {document : Node} {text : String} {options : IndexOptions}
    {earlier later : List Placement} {entry : Placement}
    (hsplit : placements document text options = earlier ++ entry :: later) :
    ∃ slug, entry.path = (Placement.enclosing entry.mark earlier).child slug ∧
      LeastFree (fun name =>
        (Placement.enclosing entry.mark earlier).child name ∈ earlier.map Placement.path)
        entry.mark.base slug := by
  obtain ⟨front, rfl, hentry⟩ := Walk.exists_walk_of_split hsplit
  have htracks := (Walk.tracks_nil (.ofText text)).foldl front
  have hremembers := Walk.remembers_nil.foldl (.ofText text) front
  rw [List.nil_append] at htracks hremembers
  rw [hentry]
  exact htracks.leastFree hremembers (Walk.counted_start.foldl _ front) entry.mark

end Sections
