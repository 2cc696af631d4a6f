import Sections.Files.Disk
import Sections.Proofs.Files.Tree
import Sections.Proofs.Outcome

/-!
# Steps on a disk

What each step on a disk answers, and what it changes.
-/

namespace Sections

namespace Disk

open ExceptT

def changed (disk : Disk) (effect : FileEffect) : Disk :=
  { disk with tree := effect.applyTo disk.tree, effects := disk.effects ++ [effect] }

variable (disk : Disk) (path : PathText)

@[simp] theorem outcome_perform (effect : FileEffect) :
    (perform effect).outcome disk = (.ok (), disk.changed effect) := rfl

@[simp] theorem outcome_locate :
    (locate path).outcome disk = (disk.tree.locate disk.workingDirectory path, disk) := by
  simp [locate, outcome_bind]

theorem outcome_makeDirectory :
    (makeDirectory path).outcome disk =
      match disk.tree.locateEntry disk.workingDirectory path with
      | .error fault => (.error fault, disk)
      | .ok none => (.error (.system .exists), disk)
      | .ok (some place) =>
        if (disk.tree.get? place).isSome then (.error (.system .exists), disk)
        else (.ok (), disk.changed (.makeDirectory place)) := by
  simp only [makeDirectory, outcome_bind, outcome_get, outcome_ofExcept]
  rcases disk.tree.locateEntry disk.workingDirectory path with fault | _ | place
  · rfl
  · rfl
  · dsimp only
    split <;> rfl

theorem outcome_ensureDirectory :
    (ensureDirectory path).outcome disk =
      match (makeDirectory path).outcome disk with
      | (.ok (), disk) => (.ok true, disk)
      | (.error fault, disk) =>
        if fault.isNotFound then (.ok false, disk)
        else if disk.tree.leadsToDirectory disk.workingDirectory path then (.ok true, disk)
        else (.error fault, disk) := by
  rcases hmake : (makeDirectory path).outcome disk with ⟨fault | ⟨⟩, disk'⟩
  · have hrun : (makeDirectory path).run.run disk = pure (.error fault, disk') := hmake
    simp only [ensureDirectory, outcome, ExceptT.run_mk, StateT.run_bind, hrun, pure_bind]
    by_cases hfault : fault.isNotFound
    · simp only [hfault]
      rfl
    · by_cases hleads : disk'.tree.leadsToDirectory disk'.workingDirectory path
      · rw [if_neg hfault, StateT.run_bind, StateT.run_get, pure_bind, if_pos hleads, if_neg hfault,
          if_pos hleads]
        rfl
      · rw [if_neg hfault, StateT.run_bind, StateT.run_get, pure_bind, if_neg hleads, if_neg hfault,
          if_neg hleads]
        rfl
  · have hrun : (makeDirectory path).run.run disk = pure (.ok (), disk') := hmake
    simp only [ensureDirectory, outcome, ExceptT.run_mk, StateT.run_bind, hrun, pure_bind]
    rfl

theorem outcome_moveTo (source : Place) :
    (moveTo source path).outcome disk =
      match disk.tree.locateEntry disk.workingDirectory path with
      | .error fault => (.error fault, disk)
      | .ok none => (.error (.system .busy), disk)
      | .ok (some target) =>
        if path.ending = .slash then (.error (.system .notDirectory), disk)
        else if disk.tree.isDirectory target then (.error (.system .isDirectory), disk)
        else (.ok (), disk.changed (.move source target)) := by
  simp only [moveTo, outcome_bind, outcome_get, outcome_ofExcept]
  rcases disk.tree.locateEntry disk.workingDirectory path with fault | _ | target
  · rfl
  · rfl
  · dsimp only
    split
    · rfl
    · split <;> rfl

theorem outcome_makeDirectories (height : Nat) (htext : path.text ≠ "") :
    (makeDirectories height path).outcome disk =
      match (ensureDirectory path).outcome disk with
      | (.error fault, disk) => (.error fault, disk)
      | (.ok true, disk) => (.ok (), disk)
      | (.ok false, disk) =>
        match height, path.parent? with
        | height + 1, some parent =>
          match (makeDirectories height parent).outcome disk with
          | (.error fault, disk) => (.error fault, disk)
          | (.ok (), disk) =>
            match (ensureDirectory path).outcome disk with
            | (.error fault, disk) => (.error fault, disk)
            | (.ok true, disk) => (.ok (), disk)
            | (.ok false, disk) => (.error (.system .notFound), disk)
        | _, _ => (.error .noDirectory, disk) := by
  rw [makeDirectories.eq_def]
  simp only [if_neg htext, outcome_bind]
  rcases (ensureDirectory path).outcome disk with ⟨fault | _ | _, disk'⟩
  · rfl
  · dsimp only
    cases height with
    | zero => rfl
    | succ height =>
      cases path.parent? with
      | none => rfl
      | some parent =>
        simp only [Bool.false_eq_true, if_false, outcome_bind]
        rcases (makeDirectories height parent).outcome disk' with ⟨fault | ⟨⟩, disk''⟩
        · rfl
        · dsimp only
          rcases (ensureDirectory path).outcome disk'' with ⟨fault | _ | _, disk'''⟩ <;> rfl
  · rfl

theorem outcome_replaceFile (directory : Place) (content : ByteArray) (modified : Timestamp) :
    (replaceFile directory path content modified).outcome disk =
      let name := temporaryName disk.tree directory
      let entry := directory ++ [name]
      if HasRoom path then
        match (moveTo entry path).outcome (disk.changed (.createFile entry content modified)) with
        | (.ok (), disk) => (.ok (), disk)
        | (.error fault, disk) => (.error fault, disk.changed (.remove entry))
      else (.error (.systemAt .nameTooLong (path.lead ++ "/" ++ name)), disk) := by
  simp only [replaceFile, outcome_bind, outcome_get]
  by_cases hroom : HasRoom path
  · simp only [if_pos hroom, outcome_bind, outcome_perform, outcome_tryCatch, outcome_throw]
    rcases (moveTo (directory ++ [temporaryName disk.tree directory]) path).outcome _ with
      ⟨fault | ⟨⟩, disk'⟩ <;> rfl
  · simp only [if_neg hroom]
    rfl

theorem outcome_writeFile {parent : PathText} (hparent : path.parent? = some parent)
    (content : ByteArray) (modified : Timestamp) :
    (writeFile path content modified).outcome disk =
      match (createDirectories parent).outcome disk with
      | (.error fault, disk) => (.error fault, disk)
      | (.ok (), disk) =>
        match disk.tree.locate disk.workingDirectory parent with
        | .error fault => (.error fault, disk)
        | .ok directory => (replaceFile directory path content modified).outcome disk := by
  simp only [writeFile, hparent, outcome_bind, outcome_locate]
  rcases (createDirectories parent).outcome disk with ⟨fault | ⟨⟩, disk'⟩
  · rfl
  · dsimp only
    cases disk'.tree.locate disk'.workingDirectory parent <;> rfl

end Disk

end Sections
