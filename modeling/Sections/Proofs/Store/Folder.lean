import Sections.Proofs.Files.Writing
import Sections.Store.Folder

/-!
# Saving in a folder

A save changes the disk only when it writes the file of its document, and it does so only for a
document that is missing or at the expected revision.
-/

namespace Sections

theorem decodeUtf8_toUTF8 (text : String) : decodeUtf8 text.toUTF8 = .ok text := by
  have hread : String.fromUTF8? text.toUTF8 = some text := dif_pos text.isValidUTF8
  rw [decodeUtf8, hread]

namespace Folder

open ExceptT FileTree

/-! ## Reading a text -/

section Reading

variable {disk : Disk} {path : PathText} {place : Place} {text : String} {modified : Timestamp}

theorem readText_of_locate (habsolute : path.isAbsolute)
    (hlocate : disk.tree.locate [] path = .ok place)
    (hheld : disk.tree.get? place = some (.file text.toUTF8 modified)) :
    readText disk path = .ok (some (text, modified)) := by
  rw [← locate_of_isAbsolute disk.tree disk.workingDirectory habsolute] at hlocate
  have hread := read_of_locate hlocate
  rw [hheld] at hread
  rw [readText, hread]
  simp only [decodeUtf8_toUTF8]

theorem readText_of_error {fault : FileFault} (habsolute : path.isAbsolute)
    (hlocate : disk.tree.locate [] path = .error fault) :
    readText disk path =
      if fault.isNotFound then .ok none else .error (.io fault.message) := by
  rw [← locate_of_isAbsolute disk.tree disk.workingDirectory habsolute] at hlocate
  have hread : disk.tree.read disk.workingDirectory path = .error fault := by
    rw [FileTree.read, hlocate]
    rfl
  rw [readText, hread]

theorem inv_readText (habsolute : path.isAbsolute)
    (hread : readText disk path = .ok (some (text, modified))) :
    ∃ place content, disk.tree.locate [] path = .ok place ∧
      disk.tree.get? place = some (.file content modified) := by
  cases hlocate : disk.tree.locate [] path with
  | error fault =>
      rw [readText_of_error habsolute hlocate] at hread
      cases hfault : fault.isNotFound <;> simp [hfault] at hread
  | ok place =>
      rw [← locate_of_isAbsolute disk.tree disk.workingDirectory habsolute] at hlocate
      have hfile := read_of_locate hlocate
      cases hitem : disk.tree.get? place with
      | none => simp [readText, hfile, hitem, FileFault.isNotFound] at hread
      | some item =>
          cases item with
          | directory => simp [readText, hfile, hitem, FileFault.isNotFound] at hread
          | link target => simp [readText, hfile, hitem, FileFault.isNotFound] at hread
          | file content dated =>
              cases hdecode : decodeUtf8 content with
              | error fault => simp [readText, hfile, hitem, hdecode] at hread
              | ok decoded =>
                  have hdated : dated = modified := by
                    have hpair : decoded = text ∧ dated = modified := by
                      simpa [readText, hfile, hitem, hdecode] using hread
                    exact hpair.2
                  exact ⟨place, content, rfl, by rw [hitem, hdated]⟩

end Reading

/-! ## The steps of a load and of a save -/

variable (now : Timestamp) (text : String) (writePatch : PatchWriter) {hash : TextHash}
  {guard : RootGuard} {id : String} {expected : Revision} {disk : Disk} {path : PathText}

theorem outcome_onDisk {α : Type} (step : DiskM α) :
    (onDisk step).outcome disk =
      ((step.outcome disk).1.mapError fun fault => .io fault.message, (step.outcome disk).2) := rfl

theorem outcome_resolve :
    (resolve guard id).outcome disk = (guard.resolve disk.tree id, disk) := by
  simp [resolve, outcome_bind]

theorem outcome_load :
    (load hash guard id).outcome disk =
      (match guard.resolve disk.tree id with
        | .error fault => .error fault
        | .ok path =>
          match readText disk path with
          | .error fault => .error fault
          | .ok (some (text, modified)) => .ok ⟨text, revisionFor hash text modified⟩
          | .ok none => .error (.notFound id), disk) := by
  simp only [load, outcome_bind, outcome_resolve, outcome_get, outcome_ofExcept]
  rcases guard.resolve disk.tree id with fault | path
  · rfl
  · dsimp only
    rcases readText disk path with fault | _ | ⟨text, modified⟩ <;> rfl

theorem outcome_commit (old : String) (previous : Option Timestamp) :
    (save.commit hash now id text writePatch path old previous).outcome disk =
      match (Disk.writeFile path text.toUTF8 (Timestamp.following previous now)).outcome disk with
      | (.error fault, disk) => (.error (.io fault.message), disk)
      | (.ok (), disk) =>
        match readText disk path with
        | .error fault => (.error fault, disk)
        | .ok (some (stored, modified)) =>
          (.ok ⟨revisionFor hash stored modified, writePatch old text⟩, disk)
        | .ok none => (.error (.notFound id), disk) := by
  simp only [save.commit, outcome_bind, outcome_onDisk, outcome_get, outcome_ofExcept]
  rcases (Disk.writeFile path text.toUTF8 (Timestamp.following previous now)).outcome disk with
    ⟨fault | ⟨⟩, disk'⟩
  · rfl
  · dsimp only [Except.mapError]
    rcases readText disk' path with fault | _ | ⟨stored, modified⟩ <;> rfl

theorem outcome_save :
    (save hash guard now id text expected writePatch).outcome disk =
      match guard.resolve disk.tree id with
      | .error fault => (.error fault, disk)
      | .ok path =>
        match readText disk path with
        | .error fault => (.error fault, disk)
        | .ok (some (current, modified)) =>
          if revisionFor hash current modified = expected then
            (save.commit hash now id text writePatch path current (some modified)).outcome disk
          else (.error (.revisionConflict (revisionFor hash current modified)), disk)
        | .ok none => (save.commit hash now id text writePatch path "" none).outcome disk := by
  simp only [save, outcome_bind, outcome_resolve, outcome_get, outcome_ofExcept]
  rcases guard.resolve disk.tree id with fault | path
  · rfl
  · dsimp only
    rcases readText disk path with fault | _ | ⟨current, modified⟩
    · rfl
    · rfl
    · dsimp only
      split <;> rfl

theorem snd_outcome_commit (old : String) (previous : Option Timestamp) :
    ((save.commit hash now id text writePatch path old previous).outcome disk).2 =
      ((Disk.writeFile path text.toUTF8 (Timestamp.following previous now)).outcome disk).2 := by
  rw [outcome_commit]
  rcases (Disk.writeFile path text.toUTF8 (Timestamp.following previous now)).outcome disk with
    ⟨fault | ⟨⟩, disk'⟩
  · rfl
  · dsimp only
    rcases readText disk' path with fault | _ | ⟨stored, modified⟩ <;> rfl

/-- Whether a save comes to writing the file of its document. -/
def Commits (hash : TextHash) (guard : RootGuard) (disk : Disk) (id : String) (expected : Revision)
    (path : PathText) : Prop :=
  guard.resolve disk.tree id = .ok path ∧
    (readText disk path = .ok none ∨ ∃ current modified,
      readText disk path = .ok (some (current, modified)) ∧
        revisionFor hash current modified = expected)

theorem outcome_save_of_commits (hcommits : Commits hash guard disk id expected path) :
    ∃ previous, ((save hash guard now id text expected writePatch).outcome disk).2 =
      ((Disk.writeFile path text.toUTF8 (Timestamp.following previous now)).outcome disk).2 := by
  obtain ⟨hresolve, hread⟩ := hcommits
  rw [outcome_save, hresolve]
  rcases hread with hread | ⟨current, modified, hread, hrevision⟩
  · exact ⟨none, by simp only [hread, snd_outcome_commit]⟩
  · exact ⟨some modified, by simp only [hread, hrevision, if_true, snd_outcome_commit]⟩

theorem outcome_save_of_not_commits
    (hrefused : ∀ path, ¬ Commits hash guard disk id expected path) :
    ((save hash guard now id text expected writePatch).outcome disk).2 = disk := by
  rw [outcome_save]
  cases hresolve : guard.resolve disk.tree id with
  | error fault => rfl
  | ok path =>
      dsimp only
      cases hread : readText disk path with
      | error fault => rfl
      | ok found =>
          rcases found with _ | ⟨current, modified⟩
          · exact absurd ⟨hresolve, .inl hread⟩ (hrefused path)
          · have hne : revisionFor hash current modified ≠ expected := fun hrevision =>
              hrefused path ⟨hresolve, .inr ⟨current, modified, hread, hrevision⟩⟩
            simp only [if_neg hne]

end Folder

end Sections
