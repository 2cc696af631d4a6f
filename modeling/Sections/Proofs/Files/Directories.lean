import Sections.Proofs.Files.Confined

/-!
# Making directories

The missing directories of a path are made below the nearest directory above them that is there.
-/

namespace Sections.Disk

open ExceptT FileTree

variable {disk : Disk} {names above : List String} {name : String} {place : Place}

theorem outcome_makeDirectory_of_locate (hnames : ∀ name ∈ names, PathText.IsName name)
    (hlocate : disk.tree.locate disk.workingDirectory (.ofNames true names) = .ok place) :
    ∃ fault, (makeDirectory (.ofNames true names)).outcome disk = (.error fault, disk) ∧
      fault.isNotFound = false := by
  rw [locate_ofNames _ _ hnames] at hlocate
  obtain ⟨⟨⟩, hcheck, hwalk⟩ := inv_bind_ok hlocate
  rw [outcome_makeDirectory]
  rcases List.eq_nil_or_concat names with rfl | ⟨above, name, rfl⟩
  · rw [locateEntry_root _ _ hcheck]
    exact ⟨_, rfl, rfl⟩
  · rw [List.concat_eq_append] at *
    obtain ⟨left, directory, hleads, hlast⟩ := exists_leads_of_walk_append (inv_mapError_ok hwalk)
    have hlead : disk.tree.walk mostLinks [] (above ++ ["."]) = .ok directory := by
      rw [hleads.walk_append, walk_dot left (isDirectory_of_walk_cons hlast)]
    rw [locateEntry_ofNames _ _ hnames, hcheck, hlead]
    have hdot := (hnames name (by simp)).ne_dot
    by_cases hup : name = ".."
    · exact ⟨.system .exists, by simp [hup], rfl⟩
    · have hheld := get?_of_walk_name hdot hup hlast
      by_cases hlong : longestName < name.utf8ByteSize
      · exact ⟨.system .nameTooLong, by simp [hup, hlong], rfl⟩
      · exact ⟨.system .exists, by simp [hup, hlong, hheld], rfl⟩

theorem outcome_ensureDirectory_of_locate (hnames : ∀ name ∈ names, PathText.IsName name)
    (hlocate : disk.tree.locate disk.workingDirectory (.ofNames true names) = .ok place) :
    ∃ fault, (ensureDirectory (.ofNames true names)).outcome disk =
      (if disk.tree.isDirectory place then .ok true else .error fault, disk) := by
  obtain ⟨fault, hmake, hfound⟩ := outcome_makeDirectory_of_locate hnames hlocate
  refine ⟨fault, ?_⟩
  rw [outcome_ensureDirectory, hmake]
  by_cases hdirectory : disk.tree.isDirectory place <;>
    simp [hfound, leadsToDirectory, hlocate, hdirectory]

inductive Attempt (disk : Disk) (above : List String) (name : String) :
    Except FileFault Bool × Disk → Prop
  | refused (fault : FileFault) : Attempt disk above name (.error fault, disk)
  | tooDeep (hmissing : ∀ directory, disk.tree.walk mostLinks [] (above ++ ["."]) ≠ .ok directory) :
      Attempt disk above name (.ok false, disk)
  | made (directory : Place) (hcheck : checkPath (.ofNames true (above ++ [name])) = .ok ())
      (hwalk : disk.tree.walk mostLinks [] (above ++ ["."]) = .ok directory)
      (hlength : name.utf8ByteSize ≤ longestName)
      (hfree : disk.tree.get? (directory ++ [name]) = none) :
      Attempt disk above name (.ok true, disk.changed (.makeDirectory (directory ++ [name])))

theorem attempt_ensureDirectory (hnames : ∀ piece ∈ above ++ [name], PathText.IsName piece)
    (hup : name ≠ "..")
    (hmissing : ∀ place,
      disk.tree.locate disk.workingDirectory (.ofNames true (above ++ [name])) ≠ .ok place) :
    Attempt disk above name ((ensureDirectory (.ofNames true (above ++ [name]))).outcome disk) := by
  have hnowhere : disk.tree.leadsToDirectory disk.workingDirectory
      (.ofNames true (above ++ [name])) = false := by
    unfold leadsToDirectory
    split
    · next place hlocate => exact absurd hlocate (hmissing place)
    · rfl
  rw [outcome_ensureDirectory, outcome_makeDirectory, locateEntry_ofNames _ _ hnames]
  cases hcheck : checkPath (.ofNames true (above ++ [name])) with
  | error fault =>
      simpa [checkPath_ofNames_isNotFound hcheck, hnowhere] using .refused fault
  | ok =>
      cases hwalk : disk.tree.walk mostLinks [] (above ++ ["."]) with
      | error fault =>
          by_cases hdeep : (FileFault.system fault).isNotFound
          · simpa [hdeep] using .tooDeep (by simp [hwalk])
          · simpa [hdeep, hnowhere] using .refused _
      | ok directory =>
          by_cases hlong : longestName < name.utf8ByteSize
          · simpa [hup, hlong, hnowhere, FileFault.isNotFound] using .refused _
          · cases hfree : disk.tree.get? (directory ++ [name]) with
            | some item =>
              simpa [hup, hlong, hfree, hnowhere, FileFault.isNotFound] using .refused _
            | none =>
                simpa [hup, hlong, hfree] using
                  .made directory hcheck hwalk (Nat.not_lt.mp hlong) hfree

/-- The nearest thing that is there at or above a path of names, and the names below it. -/
structure Nearest (tree : FileTree) (front missing : List String) (base : Place) : Prop where
  leads : tree.locate [] (.ofNames true front) = .ok base
  absent : ∀ more, more ≠ [] → more <+: missing →
    ∀ place, tree.locate [] (.ofNames true (front ++ more)) ≠ .ok place

theorem locate_put {tree : FileTree} {directory : Place} (hwell : tree.WellFormed)
    (hnames : ∀ piece ∈ above ++ [name], PathText.IsName piece) (hup : name ≠ "..")
    (hcheck : checkPath (.ofNames true (above ++ [name])) = .ok ())
    (hwalk : tree.walk mostLinks [] (above ++ ["."]) = .ok directory)
    (hlength : name.utf8ByteSize ≤ longestName) (hfree : tree.get? (directory ++ [name]) = none) :
    let larger := tree.put (directory ++ [name]) .directory
    larger.locate [] (.ofNames true (above ++ [name])) = .ok (directory ++ [name]) ∧
      larger.isDirectory (directory ++ [name]) ∧
      ∀ last, larger.get? (directory ++ [name] ++ [last]) = none := by
  intro larger
  have hextends : Extends tree larger := extends_put hfree .directory
  have hitem : larger.get? (directory ++ [name]) = some .directory :=
    get?_put_self tree directory name .directory
  obtain ⟨left, hleads, hthere⟩ := exists_leads_of_walk_dot hwalk
  have hdirectory := hextends.isDirectory hthere
  refine ⟨?_, isDirectory_iff.mpr hitem, ?_⟩
  · rw [locate_ofNames _ _ hnames, hcheck, (hleads.mono hextends).walk_append,
      walk_name left hdirectory ⟨hnames name (by simp), hup⟩ hlength hitem (by simp)]
    rfl
  · intro last
    rw [get?_put_of_ne (by simp)]
    exact hwell.get?_below hfree last

theorem locate_of_walk_dot {tree : FileTree} {directory : Place}
    (hnames : ∀ piece ∈ above ++ [name], PathText.IsName piece)
    (hcheck : checkPath (.ofNames true (above ++ [name])) = .ok ())
    (hwalk : tree.walk mostLinks [] (above ++ ["."]) = .ok directory) :
    tree.locate [] (.ofNames true above) = .ok directory := by
  obtain ⟨left, hleads, -⟩ := exists_leads_of_walk_dot hwalk
  have habove : checkPath (.ofNames true above) = .ok () := by
    refine checkPath_ofNames (PathText.isAbsolute_ofNames _) ?_ hcheck
    rw [PathText.names_ofNames hnames]
    exact List.sublist_append_left _ _
  rw [locate_ofNames _ _ fun piece hpiece => hnames piece (List.mem_append_left _ hpiece), habove,
    hleads.walk]
  rfl

theorem walk_dot_of_locate {tree : FileTree} {directory : Place}
    (hnames : ∀ name ∈ names, PathText.IsName name)
    (hlocate : tree.locate [] (.ofNames true names) = .ok directory)
    (hdirectory : tree.isDirectory directory) :
    tree.walk mostLinks [] (names ++ ["."]) = .ok directory := by
  obtain ⟨left, hleads⟩ := leads_of_locate_ofNames hnames hlocate
  rw [hleads.walk_append, walk_dot left hdirectory]

theorem locate_of_empty {tree : FileTree} {directory : Place} (workingDirectory : Place)
    (hnames : ∀ piece ∈ above ++ [name], PathText.IsName piece) (hup : name ≠ "..")
    (hwalk : tree.walk mostLinks [] (above ++ ["."]) = .ok directory)
    (hempty : ∀ last, tree.get? (directory ++ [last]) = none) (place : Place) :
    tree.locate workingDirectory (.ofNames true (above ++ [name])) ≠ .ok place := by
  intro hlocate
  rw [locate_ofNames _ _ hnames] at hlocate
  obtain ⟨⟨⟩, -, hthere⟩ := inv_bind_ok hlocate
  obtain ⟨left, hleads, -⟩ := exists_leads_of_walk_dot hwalk
  have hlast := inv_mapError_ok hthere
  rw [hleads.walk_append] at hlast
  have hheld := get?_of_walk_name (hnames name (by simp)).ne_dot hup hlast
  simp [hempty name] at hheld

structure Opened (base : Place) (disk : Disk) (made : List FileEffect) (front missing : List String)
    (directory : Place) : Prop where
  leads : (disk.allChanged made).tree.locate [] (.ofNames true (front ++ missing)) = .ok directory
  below : base <+: directory
  isDirectory : (disk.allChanged made).tree.isDirectory directory
  unchanged : missing = [] → made = [] ∧ directory = base
  empty : missing ≠ [] → ∀ name, (disk.allChanged made).tree.get? (directory ++ [name]) = none

theorem Builds.opened {front more : List String} {base directory : Place} {made : List FileEffect}
    (hbuilds : Builds base disk made)
    (hnames : ∀ piece ∈ (front ++ more) ++ [name], PathText.IsName piece) (hup : name ≠ "..")
    (hbelow : base <+: directory)
    (hcheck : checkPath (.ofNames true ((front ++ more) ++ [name])) = .ok ())
    (hwalk : (disk.allChanged made).tree.walk mostLinks [] ((front ++ more) ++ ["."]) =
      .ok directory)
    (hlength : name.utf8ByteSize ≤ longestName)
    (hfree : (disk.allChanged made).tree.get? (directory ++ [name]) = none) :
    Builds base disk (made ++ [.makeDirectory (directory ++ [name])]) ∧
      Opened base disk (made ++ [.makeDirectory (directory ++ [name])]) front (more ++ [name])
        (directory ++ [name]) := by
  obtain ⟨left, hleads, hdirectory⟩ := exists_leads_of_walk_dot hwalk
  obtain ⟨hlocate, hnew, hempty⟩ :=
    locate_put hbuilds.wellFormed hnames hup hcheck hwalk hlength hfree
  refine ⟨hbuilds.makeDirectory hbelow hdirectory ⟨hnames name (by simp), hup⟩ hfree, ?_⟩
  rw [List.append_assoc] at hlocate
  constructor
  case leads => rwa [tree_makeDirectory]
  case below => exact hbelow.trans (List.prefix_append _ _)
  case isDirectory => rwa [tree_makeDirectory]
  case unchanged => simp
  case empty =>
    intro _
    rwa [tree_makeDirectory]

/-- What comes of making the directories of a path: they are open, or a fault came up on the way. -/
inductive Makes {α : Type} (done : α) (base : Place) (disk : Disk) (front missing : List String) :
    Except FileFault α × Disk → Prop
  | failed (fault : FileFault) (made : List FileEffect) (hbuilds : Builds base disk made) :
      Makes done base disk front missing (.error fault, disk.allChanged made)
  | opened (made : List FileEffect) (directory : Place) (hbuilds : Builds base disk made)
      (hopened : Opened base disk made front missing directory) :
      Makes done base disk front missing (.ok done, disk.allChanged made)

theorem outcome_makeDirectories_of_locate (hnames : ∀ name ∈ names, PathText.IsName name)
    (hlocate : disk.tree.locate [] (.ofNames true names) = .ok place) (height : Nat) :
    ∃ fault, (makeDirectories height (.ofNames true names)).outcome disk =
      (if disk.tree.isDirectory place then .ok () else .error fault, disk) := by
  have habsolute := PathText.isAbsolute_ofNames names
  rw [← locate_of_isAbsolute disk.tree disk.workingDirectory habsolute] at hlocate
  obtain ⟨fault, hensure⟩ := outcome_ensureDirectory_of_locate hnames hlocate
  refine ⟨fault, ?_⟩
  rw [outcome_makeDirectories _ _ _ (PathText.text_ofNames_ne_empty _), hensure]
  by_cases hdirectory : disk.tree.isDirectory place <;> simp [hdirectory]

theorem Opened.makes_ensureDirectory {front more : List String} {base directory : Place}
    {made : List FileEffect} (hopened : Opened base disk made front more directory)
    (hbuilds : Builds base disk made)
    (hnames : ∀ piece ∈ (front ++ more) ++ [name], PathText.IsName piece) (hup : name ≠ "..")
    (hnew : more ≠ []) :
    Makes true base disk front (more ++ [name])
      ((ensureDirectory (.ofNames true (front ++ more ++ [name]))).outcome
        (disk.allChanged made)) := by
  have hwalk := walk_dot_of_locate
    (fun piece hpiece => hnames piece (List.mem_append_left _ hpiece))
    hopened.leads hopened.isDirectory
  have hmissing := locate_of_empty (disk.allChanged made).workingDirectory hnames hup hwalk
    (hopened.empty hnew)
  have htry := attempt_ensureDirectory hnames hup hmissing
  generalize (ensureDirectory (.ofNames true (front ++ more ++ [name]))).outcome
    (disk.allChanged made) = attempt at htry
  cases htry with
  | refused fault => exact .failed fault made hbuilds
  | tooDeep hdeep => exact absurd hwalk (hdeep directory)
  | made found hcheck hfound hlength hfree =>
      obtain rfl : directory = found := Except.ok.inj (hwalk.symm.trans hfound)
      obtain ⟨hbuilds, hopened⟩ := hbuilds.opened hnames hup hopened.below hcheck hfound hlength
        hfree
      rw [changed_allChanged]
      exact .opened _ _ hbuilds hopened

section Below

variable {front more : List String} {base : Place}
  (hnames : ∀ piece ∈ (front ++ more) ++ [name], PathText.IsName piece) (hup : name ≠ "..")

include hnames hup

theorem Nearest.makes_last {directory : Place}
    (hnear : Nearest disk.tree front (more ++ [name]) base) (hnone : Builds base disk [])
    (hcheck : checkPath (.ofNames true ((front ++ more) ++ [name])) = .ok ())
    (hwalk : disk.tree.walk mostLinks [] ((front ++ more) ++ ["."]) = .ok directory)
    (hlength : name.utf8ByteSize ≤ longestName)
    (hfree : disk.tree.get? (directory ++ [name]) = none) :
    Makes () base disk front (more ++ [name])
      (.ok (), disk.changed (.makeDirectory (directory ++ [name]))) := by
  have hlocate := locate_of_walk_dot hnames hcheck hwalk
  obtain rfl : more = [] := by
    by_contra hne
    exact hnear.absent more hne (List.prefix_append _ _) directory hlocate
  obtain rfl : base = directory := by
    have hbase := hnear.leads
    rw [List.append_nil, hbase] at hlocate
    exact Except.ok.inj hlocate
  obtain ⟨hbuilds, hopened⟩ := hnone.opened hnames hup List.prefix_rfl hcheck hwalk hlength hfree
  exact .opened _ _ hbuilds hopened

theorem makes_below
    (hmissing : ∀ directory,
      disk.tree.walk mostLinks [] ((front ++ more) ++ ["."]) ≠ .ok directory)
    (attempt : Except FileFault Unit × Disk) :
    Makes () base disk front more attempt → Makes () base disk front (more ++ [name])
      (match attempt with
      | (.error fault, disk) => (.error fault, disk)
      | (.ok (), disk) =>
        match (ensureDirectory (.ofNames true (front ++ more ++ [name]))).outcome disk with
        | (.error fault, disk) => (.error fault, disk)
        | (.ok true, disk) => (.ok (), disk)
        | (.ok false, disk) => (.error (.system .notFound), disk)) := by
  intro hmakes
  cases hmakes with
  | failed fault made hbuilds => exact .failed fault made hbuilds
  | opened made directory hbuilds hopened =>
      have hnew : more ≠ [] := by
        intro hnil
        have hwalk := walk_dot_of_locate
          (fun piece hpiece => hnames piece (List.mem_append_left _ hpiece))
          hopened.leads hopened.isDirectory
        rw [(hopened.unchanged hnil).1] at hwalk
        exact hmissing directory hwalk
      have hretry := hopened.makes_ensureDirectory hbuilds hnames hup hnew
      dsimp only
      generalize (ensureDirectory (.ofNames true (front ++ more ++ [name]))).outcome
        (disk.allChanged made) = attempt at hretry
      cases hretry with
      | failed fault made hbuilds => exact .failed fault made hbuilds
      | opened made directory hbuilds hopened => exact .opened made directory hbuilds hopened

end Below

theorem makes_of_locate {base : Place} (hnone : Builds base disk [])
    (hnames : ∀ name ∈ names, PathText.IsName name)
    (hlocate : disk.tree.locate [] (.ofNames true names) = .ok base) (height : Nat) :
    Makes () base disk names [] ((makeDirectories height (.ofNames true names)).outcome disk) := by
  obtain ⟨fault, hmake⟩ := outcome_makeDirectories_of_locate hnames hlocate height
  rw [hmake]
  by_cases hdirectory : disk.tree.isDirectory base
  · rw [if_pos hdirectory]
    refine .opened [] base hnone ⟨?_, List.prefix_rfl, hdirectory, fun _ => ⟨rfl, rfl⟩, ?_⟩
    · simpa [allChanged] using hlocate
    · exact fun hne => absurd rfl hne
  · rw [if_neg hdirectory]
    exact .failed fault [] hnone

theorem makes_makeDirectories {front missing : List String} {base : Place}
    (hwell : disk.tree.WellFormed)
    (hnames : ∀ name ∈ front ++ missing, PathText.IsName name)
    (hup : ∀ name ∈ missing, name ≠ "..")
    (hnear : Nearest disk.tree front missing base) (height : Nat) :
    Makes () base disk front missing
      ((makeDirectories height (.ofNames true (front ++ missing))).outcome disk) := by
  have hnone : Builds base disk [] := .nil base hwell
  induction missing using List.reverseRecOn generalizing height with
  | nil =>
      rw [List.append_nil] at hnames ⊢
      exact makes_of_locate hnone hnames hnear.leads height
  | append_singleton more name ih =>
      rw [← List.append_assoc] at hnames ⊢
      have hname : name ≠ ".." := hup name (by simp)
      have hmissing : ∀ place, disk.tree.locate disk.workingDirectory
          (.ofNames true (front ++ more ++ [name])) ≠ .ok place := by
        rw [locate_of_isAbsolute _ _ (PathText.isAbsolute_ofNames _), List.append_assoc]
        exact hnear.absent _ (by simp) List.prefix_rfl
      have htry := attempt_ensureDirectory hnames hname hmissing
      rw [outcome_makeDirectories _ _ _ (PathText.text_ofNames_ne_empty _)]
      generalize (ensureDirectory (.ofNames true (front ++ more ++ [name]))).outcome disk =
        attempt at htry
      cases htry with
      | refused fault => exact .failed fault [] hnone
      | made directory hcheck hwalk hlength hfree =>
          exact hnear.makes_last hnames hname hnone hcheck hwalk hlength hfree
      | tooDeep hdeep =>
          cases height with
          | zero => exact .failed .noDirectory [] hnone
          | succ height =>
              have hnearer : Nearest disk.tree front more base :=
                ⟨hnear.leads, fun between hne hbetween =>
                  hnear.absent between hne (hbetween.trans (List.prefix_append _ _))⟩
              have hmakes := ih (fun piece hpiece => hnames piece (List.mem_append_left _ hpiece))
                (fun piece hpiece => hup piece (List.mem_append_left _ hpiece)) hnearer height
              rw [PathText.parent?_of_names (PathText.isAbsolute_ofNames _)
                (PathText.names_ofNames hnames)]
              exact makes_below hnames hname hdeep _ hmakes

end Sections.Disk
