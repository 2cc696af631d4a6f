import Sections.Proofs.Files.Writing

/-!
# Replacing one entry

A file that is written takes the place of one entry of a directory, or a new one there.  If no
directory is reached through that entry, all walks to directories stay as they were.
-/

namespace Sections

namespace FileTree

variable {tree after : FileTree} {place reached directory : Place} {name : String}
  {links left : Nat} {steps : List String}

/-! ## Walks around an entry -/

theorem Leads.isDirectory (hleads : Leads tree links place steps left reached)
    (hreached : tree.isDirectory reached) : tree.isDirectory place := by
  cases hleads with
  | done => exact hreached
  | dot hdirectory => exact hdirectory
  | up hdirectory => exact hdirectory
  | link hdirectory => exact hdirectory
  | item hdirectory => exact hdirectory

theorem Leads.walk_of_links (hleads : Leads tree links place steps left reached) (budget : Nat) :
    tree.walk budget place steps = .ok reached ∨
      tree.walk budget place steps = .error .linkLoop := by
  induction hleads generalizing budget with
  | done links place =>
      left
      rw [FileTree.walk]
  | dot hdirectory hrest ih =>
      rw [FileTree.walk]
      simpa [hdirectory] using ih budget
  | up hdirectory hrest ih =>
      rw [FileTree.walk]
      simpa [hdirectory] using ih budget
  | link hdirectory hdot hup hlength hitem hrest ih =>
      rw [FileTree.walk]
      cases budget with
      | zero => simp [hdirectory, hdot, hup, Nat.not_lt.mpr hlength, hitem]
      | succ budget =>
          simpa [hdirectory, hdot, hup, Nat.not_lt.mpr hlength, hitem] using ih budget
  | @item links left place reached step rest item hdirectory hdot hup hlength hitem hlink
    hrest ih =>
      rw [FileTree.walk]
      cases item with
      | link target => exact absurd rfl (hlink target)
      | directory | file content modified =>
          simpa [hdirectory, hdot, hup, Nat.not_lt.mpr hlength, hitem] using ih budget

/-- Whether no directory is reached through the entry of a name, whatever it links to. -/
def IsLeaf (tree : FileTree) (directory : Place) (name : String) : Prop :=
  ∀ links left reached, Leads tree links directory [name] left reached → ¬ tree.isDirectory reached

theorem isLeaf_of_free (hdot : name ≠ ".") (hup : name ≠ "..")
    (hfree : tree.get? (directory ++ [name]) = none) : IsLeaf tree directory name := by
  intro links left reached hleads
  have hheld := get?_of_walk_name hdot hup hleads.walk
  simp [hfree] at hheld

/-- What it means that a tree differs from another one in a file that is put at a place. -/
structure Replaced (tree after : FileTree) (place : Place) (content : ByteArray)
    (modified : Timestamp) : Prop where
  held : after.get? place = some (.file content modified)
  others : ∀ other, other ≠ place → after.get? other = tree.get? other

namespace Replaced

variable {content : ByteArray} {modified : Timestamp}

theorem isDirectory (hreplaced : Replaced tree after place content modified)
    (hplace : ¬ tree.isDirectory place) {other : Place} (hother : tree.isDirectory other) :
    after.isDirectory other := by
  have hne : other ≠ place := by
    rintro rfl
    exact hplace hother
  rwa [FileTree.isDirectory, hreplaced.others other hne]

theorem wellFormed (hreplaced : Replaced tree after (directory ++ [name]) content modified)
    (hwell : tree.WellFormed) (hplace : ¬ tree.isDirectory (directory ++ [name]))
    (hdirectory : tree.isDirectory directory) (hname : PathText.IsName name ∧ name ≠ "..") :
    after.WellFormed := by
  intro above last hheld
  by_cases hsame : above ++ [last] = directory ++ [name]
  · obtain ⟨rfl, hlast⟩ := List.append_inj' hsame rfl
    obtain rfl : last = name := by simpa using hlast
    exact ⟨hreplaced.isDirectory hplace hdirectory, hname⟩
  · rw [hreplaced.others _ hsame] at hheld
    obtain ⟨habove, hlast⟩ := hwell above last hheld
    exact ⟨hreplaced.isDirectory hplace habove, hlast⟩

theorem file? (hreplaced : Replaced tree after place content modified) {other : Place}
    (hother : other ≠ place) : after.file? other = tree.file? other :=
  file?_congr (hreplaced.others other hother)

theorem leads (hreplaced : Replaced tree after (directory ++ [name]) content modified)
    (hleaf : IsLeaf tree directory name) (hplace : ¬ tree.isDirectory (directory ++ [name]))
    (hleads : Leads tree links place steps left reached) (hreached : tree.isDirectory reached) :
    Leads after links place steps left reached := by
  induction hleads with
  | done links place => exact .done links place
  | dot hdirectory hrest ih =>
      exact .dot (hreplaced.isDirectory hplace hdirectory) (ih hreached)
  | up hdirectory hrest ih =>
      exact .up (hreplaced.isDirectory hplace hdirectory) (ih hreached)
  | @link links left place reached step rest target hdirectory hdot hup hlength hitem hrest ih =>
      have hpassed : place ++ [step] ≠ directory ++ [name] := by
        intro hsame
        obtain ⟨rfl, hstep⟩ := List.append_inj' hsame rfl
        obtain rfl : step = name := by simpa using hstep
        obtain ⟨left', middle, htarget, hwalk⟩ := exists_leads_of_walk_append hrest.walk
        obtain ⟨left'', hback⟩ := exists_leads_of_walk hwalk
        exact hleaf (links + 1) left' middle
          (.link hdirectory hdot hup hlength hitem (by rwa [List.append_nil]))
          (hback.isDirectory hreached)
      refine .link (hreplaced.isDirectory hplace hdirectory) hdot hup hlength ?_ (ih hreached)
      rw [hreplaced.others _ hpassed, hitem]
  | @item links left place reached step rest item hdirectory hdot hup hlength hitem hlink
    hrest ih =>
      have hpassed : place ++ [step] ≠ directory ++ [name] := fun hsame =>
        hplace (hsame ▸ hrest.isDirectory hreached)
      refine .item (hreplaced.isDirectory hplace hdirectory) hdot hup hlength ?_ hlink
        (ih hreached)
      rw [hreplaced.others _ hpassed, hitem]

end Replaced

/-! ## The entry of a path -/

variable {path : PathText} {above : List String}

theorem Enters.steps_eq (henters : Enters tree path above name directory)
    (hnames : path.names = above ++ [name]) : path.steps = above ++ [name] := by
  have hending : path.ending = .name := by
    cases hending : path.ending with
    | name => rfl
    | slash => exact absurd hending henters.ne_slash
    | dot => exact absurd hending henters.ne_dot
  rw [PathText.steps, hnames, if_pos hending, List.append_nil]

theorem Replaced.locate {content : ByteArray} {modified : Timestamp} {directory : Place}
    (hreplaced : Replaced tree after (directory ++ [name]) content modified)
    (habsolute : path.isAbsolute) (hnames : path.names = above ++ [name])
    (henters : Enters tree path above name directory) (hleaf : IsLeaf tree directory name) :
    after.locate [] path = .ok (directory ++ [name]) ∧
      after.locate [] (.ofNames true above) = .ok directory := by
  obtain ⟨left, hleads, hdirectory⟩ := exists_leads_of_walk_dot henters.leads
  have hname := PathText.isName_of_last hnames
  have hafter := hreplaced.leads hleaf henters.free hleads hdirectory
  have hthere := hreplaced.isDirectory henters.free hdirectory
  have hlast : Leads after left directory [name] left (directory ++ [name]) :=
    .item hthere hname.ne_dot henters.ne_up henters.length hreplaced.held (by simp)
      (.done left (directory ++ [name]))
  constructor
  · rw [FileTree.locate, henters.check, origin, if_pos habsolute, henters.steps_eq hnames,
      hafter.walk_append, hlast.walk]
    rfl
  · have hentry : IsEntry after path above name directory :=
      { henters.toIsEntry with leads := by rw [hafter.walk_append, walk_dot left hthere] }
    exact hentry.locate_directory habsolute hnames

theorem get?_erase_put {temporary : String} (hfree : tree.get? (directory ++ [temporary]) = none)
    (item : FileItem) (other : Place) :
    ((tree.put (directory ++ [temporary]) item).erase (directory ++ [temporary])).get? other =
      tree.get? other := by
  by_cases hother : other = directory ++ [temporary]
  · rw [hother, get?_erase_self, hfree]
  · rw [get?_erase_of_ne hother, get?_put_of_ne hother]

section Temporary

variable {temporary : String} {content : ByteArray} {modified : Timestamp}
  (hfree : tree.get? (directory ++ [temporary]) = none)

include hfree

theorem isDirectory_put_file (place : Place) :
    (tree.put (directory ++ [temporary]) (.file content modified)).isDirectory place =
      tree.isDirectory place := by
  by_cases hplace : place = directory ++ [temporary]
  · simp [FileTree.isDirectory, hplace, get?_put_self, hfree]
  · simp [FileTree.isDirectory, get?_put_of_ne hplace]

theorem Enters.put_file (henters : Enters tree path above name directory) :
    Enters (tree.put (directory ++ [temporary]) (.file content modified)) path above name
      directory :=
  { henters.toIsEntry.extends (extends_put hfree _) with
    ne_slash := henters.ne_slash
    free := by
      rw [isDirectory_put_file hfree]
      exact henters.free }

theorem Enters.of_put_file {found : Place}
    (hwalk : tree.walk mostLinks [] (above ++ ["."]) = .ok directory)
    (henters : Enters (tree.put (directory ++ [temporary]) (.file content modified)) path above
      name found) :
    found = directory ∧ Enters tree path above name directory := by
  obtain rfl : found = directory :=
    Except.ok.inj (henters.leads.symm.trans ((extends_put hfree _).walk hwalk))
  exact ⟨rfl, { henters with
    leads := hwalk
    free := by
      rw [← isDirectory_put_file hfree]
      exact henters.free }⟩

theorem replaced_move (name : String) :
    Replaced tree ((FileEffect.move (directory ++ [temporary]) (directory ++ [name])).applyTo
      (tree.put (directory ++ [temporary]) (.file content modified))) (directory ++ [name]) content
      modified := by
  simp only [FileEffect.applyTo, get?_put_self]
  refine ⟨get?_put_self _ directory name _, ?_⟩
  intro other hother
  rw [get?_put_of_ne hother, get?_erase_put hfree]

end Temporary

end FileTree

namespace Disk

open ExceptT FileTree

variable {disk : Disk} {path : PathText} {above : List String} {name : String} {directory : Place}

/--
What comes of writing a file in the directory of a path: it is at the last name of the
path, or nothing has changed.
-/
inductive Replacement (disk : Disk) (path : PathText) (above : List String) (name : String)
    (directory : Place) (content : ByteArray) (modified : Timestamp) :
    Except FileFault Unit × Disk → Prop
  | refused (fault : FileFault) (after : Disk)
      (hrefused : Enters disk.tree path above name directory → ¬ HasRoom path)
      (hsame : ∀ place, after.tree.get? place = disk.tree.get? place) :
      Replacement disk path above name directory content modified (.error fault, after)
  | placed (after : Disk) (henters : Enters disk.tree path above name directory)
      (hroom : HasRoom path)
      (hreplaced : Replaced disk.tree after.tree (directory ++ [name]) content modified) :
      Replacement disk path above name directory content modified (.ok (), after)

theorem replacement_replaceFile (habsolute : path.isAbsolute)
    (hnames : path.names = above ++ [name])
    (hwalk : disk.tree.walk mostLinks [] (above ++ ["."]) = .ok directory) (content : ByteArray)
    (modified : Timestamp) :
    Replacement disk path above name directory content modified
      ((replaceFile directory path content modified).outcome disk) := by
  have hfree := get?_temporaryName disk.tree directory
  rw [outcome_replaceFile]
  generalize temporaryName disk.tree directory = temporary at hfree ⊢
  by_cases hroom : HasRoom path
  · simp only [if_pos hroom]
    rcases outcome_moveTo_cases habsolute hnames
        (disk.changed (.createFile (directory ++ [temporary]) content modified))
        (directory ++ [temporary]) with
      ⟨found, henters, hmove⟩ | ⟨fault, hmove, hnot⟩
    · obtain ⟨rfl, henters⟩ := henters.of_put_file hfree hwalk
      rw [hmove]
      exact .placed _ henters hroom (replaced_move hfree name)
    · rw [hmove]
      exact .refused fault _ (fun henters => absurd (henters.put_file hfree) (hnot directory))
        (get?_erase_put hfree _)
  · simp only [if_neg hroom]
    exact .refused _ disk (fun _ => hroom) fun _ => rfl

end Disk

end Sections
