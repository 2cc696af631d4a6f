import Sections.Proofs.Files.Disk

/-!
# Confined changes

A change of a tree is confined to a directory if the entries that it touches stand in real
directories there, so that no link leads to them.
-/

namespace Sections

namespace FileEffect

def IsConfined (base : Place) (tree : FileTree) (effect : FileEffect) : Prop :=
  ∀ place ∈ effect.touched, ∃ directory name,
    place = directory ++ [name] ∧ base <+: directory ∧ tree.IsCanonical directory

/-- Whether each of a series of changes is confined when it is made. -/
def AllConfined (base : Place) : FileTree → List FileEffect → Prop
  | _, [] => True
  | tree, effect :: rest =>
    effect.IsConfined base tree ∧ AllConfined base (effect.applyTo tree) rest

theorem AllConfined.append {base : Place} {tree : FileTree} {front back : List FileEffect}
    (hfront : AllConfined base tree front)
    (hback : AllConfined base (front.foldl applyTo tree) back) :
    AllConfined base tree (front ++ back) := by
  induction front generalizing tree with
  | nil => exact hback
  | cons effect rest ih => exact ⟨hfront.1, ih hfront.2 hback⟩

theorem AllConfined.mono {base below : Place} (hbase : base <+: below) {tree : FileTree}
    {made : List FileEffect} (hmade : AllConfined below tree made) :
    AllConfined base tree made := by
  induction made generalizing tree with
  | nil => trivial
  | cons effect rest ih =>
      refine ⟨?_, ih hmade.2⟩
      intro place hplace
      obtain ⟨directory, name, hentry, hbelow, hcanonical⟩ := hmade.1 place hplace
      exact ⟨directory, name, hentry, hbase.trans hbelow, hcanonical⟩

end FileEffect

namespace Disk

def allChanged (disk : Disk) (made : List FileEffect) : Disk := made.foldl changed disk

theorem tree_allChanged (disk : Disk) (made : List FileEffect) :
    (disk.allChanged made).tree = made.foldl FileEffect.applyTo disk.tree := by
  unfold allChanged
  induction made generalizing disk with
  | nil => rfl
  | cons effect rest ih => exact ih (disk.changed effect)

theorem changed_allChanged (disk : Disk) (made : List FileEffect) (effect : FileEffect) :
    (disk.allChanged made).changed effect = disk.allChanged (made ++ [effect]) := by
  simp [allChanged]

theorem tree_makeDirectory (disk : Disk) (made : List FileEffect) (place : Place) :
    (disk.allChanged (made ++ [.makeDirectory place])).tree =
      (disk.allChanged made).tree.put place .directory := by
  rw [← changed_allChanged]
  rfl

/--
What it means that the changes of a series make confined directories where nothing was
before.
-/
structure Builds (base : Place) (disk : Disk) (made : List FileEffect) : Prop where
  confined : FileEffect.AllConfined base disk.tree made
  wellFormed : (disk.allChanged made).tree.WellFormed
  larger : FileTree.Extends disk.tree (disk.allChanged made).tree
  files : FileTree.SameFiles disk.tree (disk.allChanged made).tree

theorem Builds.nil {disk : Disk} (base : Place) (hwell : disk.tree.WellFormed) :
    Builds base disk [] :=
  ⟨trivial, hwell, fun _ _ hheld => hheld, fun _ => rfl⟩

theorem Builds.makeDirectory {base directory : Place} {disk : Disk} {made : List FileEffect}
    {name : String} (hbuilds : Builds base disk made) (hbase : base <+: directory)
    (hdirectory : (disk.allChanged made).tree.isDirectory directory)
    (hname : PathText.IsName name ∧ name ≠ "..")
    (hfree : (disk.allChanged made).tree.get? (directory ++ [name]) = none) :
    Builds base disk (made ++ [.makeDirectory (directory ++ [name])]) := by
  have hcanonical := hbuilds.wellFormed.isCanonical hdirectory
  rw [tree_allChanged] at hcanonical
  constructor
  case confined =>
    refine hbuilds.confined.append ⟨?_, trivial⟩
    intro place hplace
    exact ⟨directory, name, List.mem_singleton.mp hplace, hbase, hcanonical⟩
  case wellFormed =>
    rw [tree_makeDirectory]
    exact hbuilds.wellFormed.put hdirectory hname hfree .directory
  case larger =>
    rw [tree_makeDirectory]
    intro place item hheld
    exact FileTree.extends_put hfree .directory place item (hbuilds.larger place item hheld)
  case files =>
    rw [tree_makeDirectory]
    intro place
    rw [FileTree.sameFiles_put_directory hfree place, hbuilds.files place]

end Disk

end Sections
