import Sections.Proofs.Store.Saving

/-!
# All or nothing

As long as no link leads out of the root, a save keeps to the root.  It stores its document as a
whole and changes no other file, or it changes no file at all.
-/

namespace Sections

namespace FileTree

variable {tree : FileTree} {root place reached : Place} {links left : Nat}
  {steps front back : List String}

/-- Whether every link in a directory or below it leads, if anywhere, to a place there. -/
def LinksStay (tree : FileTree) (root : Place) : Prop :=
  ∀ directory name target, root <+: directory →
    tree.get? (directory ++ [name]) = some (.link target) →
    ∀ links reached, tree.walk links (origin directory target) target.steps = .ok reached →
      root <+: reached

theorem Leads.inside_of_front (hleads : Leads tree links place steps left reached)
    (hlinks : tree.LinksStay root) (hsteps : steps = front ++ back)
    (hfront : ∀ left middle, Leads tree links place front left middle → root <+: middle)
    (hback : ∀ step ∈ back, step ≠ "..") : root <+: reached := by
  induction hleads generalizing front back with
  | done links place =>
      obtain ⟨rfl, rfl⟩ := List.nil_eq_append_iff.mp hsteps
      exact hfront links place (.done links place)
  | @dot links left place reached rest hdirectory hrest ih =>
      cases front with
      | nil =>
          obtain rfl : back = "." :: rest := hsteps.symm
          exact ih rfl hfront fun step hstep => hback step (List.mem_cons_of_mem _ hstep)
      | cons step front =>
          obtain ⟨rfl, rfl⟩ := List.cons.inj hsteps
          exact ih rfl (fun left middle h => hfront left middle (.dot hdirectory h)) hback
  | @up links left place reached rest hdirectory hrest ih =>
      cases front with
      | nil =>
          obtain rfl : back = ".." :: rest := hsteps.symm
          exact absurd rfl (hback ".." List.mem_cons_self)
      | cons step front =>
          obtain ⟨rfl, rfl⟩ := List.cons.inj hsteps
          exact ih rfl (fun left middle h => hfront left middle (.up hdirectory h)) hback
  | @link links left place reached step rest target hdirectory hdot hup hlength hitem hrest ih =>
      cases front with
      | nil =>
          obtain rfl : back = step :: rest := hsteps.symm
          have hplace := hfront _ _ (.done (links + 1) place)
          refine ih (show target.steps ++ rest = target.steps ++ rest from rfl) ?_ fun step hstep =>
            hback step (List.mem_cons_of_mem _ hstep)
          intro left middle htarget
          exact hlinks place step target hplace hitem links middle htarget.walk
      | cons first front =>
          obtain ⟨rfl, rfl⟩ := List.cons.inj hsteps
          refine ih (List.append_assoc _ _ _).symm ?_ hback
          intro left middle h
          exact hfront left middle (.link hdirectory hdot hup hlength hitem h)
  | @item links left place reached step rest item hdirectory hdot hup hlength hitem hlink
    hrest ih =>
      cases front with
      | nil =>
          obtain rfl : back = step :: rest := hsteps.symm
          have hplace := hfront _ _ (.done links place)
          refine ih (List.nil_append rest).symm ?_ fun step hstep =>
            hback step (List.mem_cons_of_mem _ hstep)
          intro left middle h
          cases h
          exact hplace.trans (List.prefix_append _ _)
      | cons first front =>
          obtain ⟨rfl, rfl⟩ := List.cons.inj hsteps
          refine ih rfl ?_ hback
          intro left middle h
          exact hfront left middle (.item hdirectory hdot hup hlength hitem hlink h)

theorem Leads.inside (hleads : Leads tree links place steps left reached)
    (hlinks : tree.LinksStay root) (hplace : root <+: place) (hup : ∀ step ∈ steps, step ≠ "..") :
    root <+: reached := by
  refine hleads.inside_of_front hlinks (List.nil_append steps).symm ?_ hup
  intro left middle h
  cases h
  exact hplace

end FileTree

namespace Folder

open ExceptT FileTree

variable {hash : TextHash} {guard : RootGuard} {id : String} {disk after : Disk}
  {expected : Revision} {text name : String} {above : List String} {directory : Place}
  {modified : Timestamp}

theorem Stored.isName (hstored : Stored guard disk after id text modified above name directory)
    (hwell : disk.tree.WellFormed) (hroot : disk.tree.isDirectory guard.root)
    (hresolve : guard.resolve disk.tree id = .ok (.below guard.root id)) :
    ∀ piece ∈ above, PathText.IsName piece ∧ piece ≠ ".." := by
  intro piece hpiece
  have hmem : piece ∈ (PathText.below guard.root id).names := by
    rw [hstored.names]
    exact List.mem_append_left _ hpiece
  exact ⟨PathText.isName_of_mem_names _ hmem, names_ne_up hwell hroot hresolve piece hmem⟩

theorem Stored.names_ne_nil
    (hstored : Stored guard disk after id text modified above name directory)
    (hwell : disk.tree.WellFormed) (hroot : disk.tree.isDirectory guard.root)
    (hresolve : guard.resolve disk.tree id = .ok (.below guard.root id)) :
    (PathText.mk id).names ≠ [] := by
  intro hnil
  have habove := hstored.isName hwell hroot hresolve
  have hself : guard.root = above ++ [name] := by
    have hnames := hstored.names
    rwa [PathText.names_below fun piece hpiece => (hwell.isName hroot piece hpiece).1, hnil,
      List.append_nil] at hnames
  have hthere := hstored.directories guard.root hroot
  have hcanonical := hstored.wellFormed.isCanonical hthere
  obtain ⟨left, hleads⟩ := leads_of_locate_ofNames (fun piece hpiece => (habove piece hpiece).1)
    hstored.parent
  have hdirectory : directory = above := by
    refine hleads.eq_of_isCanonical (fun stem hstem => hcanonical stem ?_) habove
    rw [hself]
    exact hstem.trans (List.prefix_append _ _)
  rw [hself, ← hdirectory] at hthere
  simp [isDirectory_iff, hstored.held] at hthere

theorem Stored.inside (hstored : Stored guard disk after id text modified above name directory)
    (hwell : disk.tree.WellFormed) (hroot : disk.tree.isDirectory guard.root)
    (hlinks : disk.tree.LinksStay guard.root)
    (hresolve : guard.resolve disk.tree id = .ok (.below guard.root id)) :
    guard.root <+: directory := by
  rcases hstored.origin with hlocate | ⟨hinside, -⟩
  case inr => exact hinside
  have habove := hstored.isName hwell hroot hresolve
  rcases List.eq_nil_or_concat (PathText.mk id).names with hnil | ⟨more, last, hmore⟩
  · exact absurd hnil (hstored.names_ne_nil hwell hroot hresolve)
  · have hnames := hstored.names
    rw [PathText.names_below fun piece hpiece => (hwell.isName hroot piece hpiece).1, hmore,
      List.concat_eq_append, ← List.append_assoc] at hnames
    obtain ⟨rfl, -⟩ := List.append_inj' hnames rfl
    obtain ⟨_, hwhole⟩ := leads_of_locate_ofNames (fun piece hpiece => (habove piece hpiece).1)
      hlocate
    obtain ⟨left, middle, hleads, hwalk⟩ := exists_leads_of_walk_append hwhole.walk
    obtain ⟨_, hback⟩ := exists_leads_of_walk hwalk
    obtain rfl := hleads.eq_of_isCanonical (hwell.isCanonical hroot) (hwell.isName hroot)
    exact hback.inside hlinks List.prefix_rfl fun piece hpiece =>
      (habove piece (List.mem_append_right _ hpiece)).2

/--
A save that fails leaves every file as it is.  One that succeeds went by the document at
the expected revision, or by there being none; then the document is loaded as it was saved,
and every other file is as it was.  A document at the expected revision is always saved, unless
the path of a temporary file beside it would be too long.
-/
theorem save_all_or_nothing (hash : TextHash) (guard : RootGuard) (now : Timestamp)
    (id text : String) (expected : Revision) (writePatch : PatchWriter)
    (hwell : disk.tree.WellFormed) (hroot : disk.tree.isDirectory guard.root)
    (hlinks : disk.tree.LinksStay guard.root) :
    let before := ((load hash guard id).run.run disk).1
    let saved := (save hash guard now id text expected writePatch).run.run disk
    (∀ fault, saved.1 = .error fault → SameFiles disk.tree saved.2.tree) ∧
      (∀ commit, saved.1 = .ok commit → ∃ old place,
        (before = .error (.notFound id) ∧ old = "" ∨ before = .ok ⟨old, expected⟩) ∧
        commit.patch = writePatch old text ∧
        (load hash guard id).run.run saved.2 = (.ok ⟨text, commit.revision⟩, saved.2) ∧
        saved.2.tree.locate [] (.below guard.root id) = .ok place ∧
        ∀ other, other ≠ place → saved.2.tree.file? other = disk.tree.file? other) ∧
      ∀ old, before = .ok ⟨old, expected⟩ →
        (saved.1.isOk ↔ Disk.HasRoom (.below guard.root id)) := by
  intro before saved
  have hsaved : Saved hash guard now disk id text expected writePatch saved :=
    saved_save now text writePatch hwell hroot
  generalize saved = outcome at hsaved
  cases hsaved with
  | failed fault after hfiles hbasis =>
      refine ⟨fun _ _ => hfiles, fun commit hcommit => by simp at hcommit, ?_⟩
      intro old hload
      obtain ⟨hresolve, dated, hcurrent⟩ := basis_of_load hload
      exact iff_of_false (by simp [Except.isOk, Except.toBool]) (hbasis hresolve old dated hcurrent)
  | stored old previous above name directory after hresolve hbasis hstored =>
      refine ⟨fun fault hfault => by simp at hfault, ?_, fun _ _ => iff_of_true rfl hstored.room⟩
      intro commit hcommit
      obtain rfl := Except.ok.inj hcommit
      have hinside := hstored.inside hwell hroot hlinks hresolve
      exact ⟨old, directory ++ [name], load_of_basis hresolve hbasis, rfl,
        load_of_locate (RootGuard.eq_of_resolve hresolve).1 hstored.leads
          (hinside.trans (List.prefix_append _ _)) hstored.held,
        hstored.leads, hstored.others⟩

def aliased : Disk :=
  { tree := ⟨[(["root"], .directory), (["root", "real.md"], .file "a".toUTF8 ⟨2000000001, 0⟩),
      (["root", "alias.md"], .link ⟨"real.md"⟩)]⟩ }

theorem wellFormed_aliased : aliased.tree.WellFormed :=
  wellFormed_of_items (by decide)

theorem walk_aliased (links : Nat) :
    aliased.tree.walk links ["root"] ["real.md"] = .ok ["root", "real.md"] ∧
      aliased.tree.walk (links + 1) [] ["root", "alias.md"] = .ok ["root", "real.md"] := by
  have htarget : (PathText.mk "real.md").isAbsolute = false ∧
      (PathText.mk "real.md").steps = ["real.md"] := by decide
  constructor <;> simp +decide [walk, aliased, get?, List.lookup_cons, htarget]

theorem linksStay_aliased : aliased.tree.LinksStay ["root"] := by
  intro directory name target _ hitem links reached hwalk
  have hentry : (directory ++ [name], FileItem.link target) ∈ aliased.tree.items := by
    rw [get?, if_neg (by simp)] at hitem
    obtain ⟨before, after, hitems, -⟩ := List.lookup_eq_some_iff.mp hitem
    simp [hitems]
  obtain ⟨hplace, rfl⟩ : directory ++ [name] = ["root"] ++ ["alias.md"] ∧
      target = ⟨"real.md"⟩ := by
    simpa [aliased] using hentry
  obtain ⟨rfl, -⟩ := List.append_inj' hplace rfl
  have hsteps : origin ["root"] ⟨"real.md"⟩ = ["root"] ∧
      (PathText.mk "real.md").steps = ["real.md"] := by decide
  rw [hsteps.1, hsteps.2, (walk_aliased links).1] at hwalk
  cases hwalk
  exact List.prefix_append _ _

theorem load_aliased :
    (load (fun _ => 0) ⟨["root"]⟩ "alias.md").run.run aliased =
      (.ok ⟨"a", revisionFor (fun _ => 0) "a" ⟨2000000001, 0⟩⟩, aliased) := by
  have hpath : PathText.below ["root"] "alias.md" = .ofNames true ["root", "alias.md"] := by decide
  have hlocate : aliased.tree.locate [] (.below ["root"] "alias.md") =
      .ok ["root", "real.md"] := by
    rw [hpath, locate_ofNames _ _ (by decide)]
    change Except.mapError _ (aliased.tree.walk (39 + 1) [] ["root", "alias.md"]) = _
    rw [(walk_aliased 39).2]
    rfl
  exact load_of_locate (by decide) hlocate (List.prefix_append _ _) rfl

theorem save_of_alias_replaces_link :
    let first := revisionFor (fun _ => 0) "a" ⟨2000000001, 0⟩
    aliased.tree.WellFormed ∧ aliased.tree.isDirectory ["root"] ∧
      aliased.tree.LinksStay ["root"] ∧
      ∃ commit after place, (save (fun _ => 0) ⟨["root"]⟩ ⟨2000000002, 0⟩ "alias.md" "b" first
          fun old new => old ++ new).run.run aliased = (.ok commit, after) ∧
        commit.patch = "ab" ∧
        (load (fun _ => 0) ⟨["root"]⟩ "alias.md").run.run after =
          (.ok ⟨"b", commit.revision⟩, after) ∧
        after.tree.locate [] (.below ["root"] "alias.md") = .ok place ∧
        ∀ other, other ≠ place → after.tree.file? other = aliased.tree.file? other := by
  intro first
  refine ⟨wellFormed_aliased, by decide, linksStay_aliased, ?_⟩
  obtain ⟨-, hstored, hsaves⟩ := save_all_or_nothing (fun _ => 0) ⟨["root"]⟩ ⟨2000000002, 0⟩
    "alias.md" "b" first (fun old new => old ++ new) wellFormed_aliased (by decide)
    linksStay_aliased
  have hsaved := (hsaves "a" (by rw [load_aliased])).mpr (by decide)
  generalize (save (fun _ => 0) ⟨["root"]⟩ ⟨2000000002, 0⟩ "alias.md" "b" first
    fun old new => old ++ new).run.run aliased = saved at hstored hsaved
  obtain ⟨fault | commit, after⟩ := saved
  · cases hsaved
  · obtain ⟨old, place, hold, hpatch, hload, hlocate, hothers⟩ := hstored commit rfl
    refine ⟨commit, after, place, rfl, ?_, hload, hlocate, hothers⟩
    rw [load_aliased] at hold
    obtain rfl : "a" = old := by simpa [first] using hold
    exact hpatch

end Folder

end Sections
