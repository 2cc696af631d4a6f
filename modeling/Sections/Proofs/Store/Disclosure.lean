import Sections.Proofs.Store.Saving

/-!
# What a load can show

The guard and the reading of a file follow the same links, so a text that is loaded is that of a
file inside the root.  What files outside hold makes no difference to a load.
-/

namespace Sections

theorem toUTF8_of_decodeUtf8 {content : ByteArray} {text : String}
    (hdecode : decodeUtf8 content = .ok text) : text.toUTF8 = content := by
  unfold decodeUtf8 String.fromUTF8? at hdecode
  split_ifs at hdecode with hvalid
  · cases hdecode
    rfl

namespace FileTree

/--
Whether two trees agree but for what files outside a directory hold.  These may differ in
content and date, but not come or go.
-/
def AgreeInside (root : Place) (tree other : FileTree) : Prop :=
  ∀ place, other.get? place = tree.get? place ∨
    ¬ root <+: place ∧ ∃ old new : ByteArray × Timestamp,
      tree.get? place = some (.file old.1 old.2) ∧ other.get? place = some (.file new.1 new.2)

variable {tree other : FileTree} {root place : Place}

theorem AgreeInside.isDirectory (hagree : AgreeInside root tree other) (place : Place) :
    other.isDirectory place = tree.isDirectory place := by
  rcases hagree place with hsame | ⟨-, old, new, hold, hnew⟩
  · rw [FileTree.isDirectory, hsame, FileTree.isDirectory]
  · rw [FileTree.isDirectory, FileTree.isDirectory, hold, hnew]
    rfl

theorem AgreeInside.get?_eq {item : Option FileItem} (hagree : AgreeInside root tree other)
    (hitem : tree.get? place = item) (hfile : ∀ content modified,
      item ≠ some (.file content modified)) : other.get? place = item := by
  rcases hagree place with hsame | ⟨-, old, new, hold, -⟩
  · rw [hsame, hitem]
  · exact absurd (hitem.symm.trans hold) (hfile old.1 old.2)

theorem AgreeInside.walk (hagree : AgreeInside root tree other) (links : Nat) (place : Place)
    (steps : List String) : other.walk links place steps = tree.walk links place steps := by
  fun_induction FileTree.walk tree links place steps with
  | case1 => rw [FileTree.walk]
  | case2 links place step rest hdirectory =>
      rw [← hagree.isDirectory] at hdirectory
      rw [FileTree.walk, if_pos hdirectory]
  | case3 links place rest hdirectory ih =>
      rw [← hagree.isDirectory] at hdirectory
      rw [FileTree.walk, if_neg hdirectory, if_pos rfl, ih]
  | case4 links place rest hdirectory hdot ih =>
      rw [← hagree.isDirectory] at hdirectory
      rw [FileTree.walk, if_neg hdirectory, if_neg hdot, if_pos rfl, ih]
  | case5 links place step rest hdirectory hdot hup hlength =>
      rw [← hagree.isDirectory] at hdirectory
      rw [FileTree.walk, if_neg hdirectory, if_neg hdot, if_neg hup, if_pos hlength]
  | case6 links place step rest hdirectory hdot hup hlength hitem =>
      rw [← hagree.isDirectory] at hdirectory
      have hother := hagree.get?_eq hitem (by simp)
      rw [FileTree.walk, if_neg hdirectory, if_neg hdot, if_neg hup, if_neg hlength, hother]
  | case7 place step rest hdirectory hdot hup hlength target hitem =>
      rw [← hagree.isDirectory] at hdirectory
      have hother := hagree.get?_eq hitem (by simp)
      rw [FileTree.walk, if_neg hdirectory, if_neg hdot, if_neg hup, if_neg hlength, hother]
  | case8 place step rest hdirectory hdot hup hlength target hitem links ih =>
      rw [← hagree.isDirectory] at hdirectory
      have hother := hagree.get?_eq hitem (by simp)
      rw [FileTree.walk, if_neg hdirectory, if_neg hdot, if_neg hup, if_neg hlength, hother]
      exact ih
  | case9 links place step rest hdirectory hdot hup hlength item hlink hitem ih =>
      rw [← hagree.isDirectory] at hdirectory
      rw [FileTree.walk, if_neg hdirectory, if_neg hdot, if_neg hup, if_neg hlength]
      rcases hagree (place ++ [step]) with hsame | ⟨-, old, new, -, hnew⟩
      · rw [hsame, hitem]
        cases item with
        | link target => exact absurd rfl (hlink target)
        | directory | file content modified => exact ih
      · rw [hnew]
        exact ih

theorem AgreeInside.locate (hagree : AgreeInside root tree other) (path : PathText) :
    other.locate [] path = tree.locate [] path := by
  simp only [FileTree.locate, hagree.walk]

end FileTree

namespace Folder

open ExceptT FileTree

variable {hash : TextHash} {guard : RootGuard} {id : String} {disk other : Disk} {path : PathText}
  {text : String} {modified : Timestamp} {snapshot : Snapshot}

theorem resolve_of_agreeInside (hagree : AgreeInside guard.root disk.tree other.tree) :
    guard.resolve other.tree id = guard.resolve disk.tree id := by
  simp only [RootGuard.resolve, hagree.locate]

theorem readText_of_agreeInside (hagree : AgreeInside guard.root disk.tree other.tree)
    (hresolve : guard.resolve disk.tree id = .ok path) :
    readText other path = readText disk path := by
  obtain ⟨-, rfl⟩ := RootGuard.eq_of_resolve hresolve
  have habsolute := PathText.isAbsolute_below guard.root id
  cases hlocate : disk.tree.locate [] (.below guard.root id) with
  | error fault =>
      rw [readText_of_error habsolute hlocate,
        readText_of_error habsolute ((hagree.locate _).trans hlocate)]
  | ok place =>
      have hinside : guard.root <+: place := by
        refine RootGuard.inside_of_resolve hresolve ?_
        simp [PathText.ancestors, hlocate, Except.toOption]
      have hsame : other.tree.get? place = disk.tree.get? place :=
        (hagree place).resolve_right fun houtside => houtside.1 hinside
      have hread : other.tree.read other.workingDirectory (.below guard.root id) =
          disk.tree.read disk.workingDirectory (.below guard.root id) := by
        have hother := (hagree.locate _).trans hlocate
        rw [← locate_of_isAbsolute _ other.workingDirectory habsolute] at hother
        rw [← locate_of_isAbsolute _ disk.workingDirectory habsolute] at hlocate
        rw [read_of_locate hother, read_of_locate hlocate, hsame]
      simp only [readText, hread]

theorem load_of_agreeInside (hagree : AgreeInside guard.root disk.tree other.tree) :
    ((load hash guard id).outcome other).1 = ((load hash guard id).outcome disk).1 := by
  rw [outcome_load, outcome_load, resolve_of_agreeInside hagree]
  cases hresolve : guard.resolve disk.tree id with
  | error fault => rfl
  | ok path => simp only [readText_of_agreeInside hagree hresolve]

theorem load_of_not_safe (hsafe : RootGuard.isLexicallySafe id = false) :
    (load hash guard id).outcome disk = (.error (.invalidDocumentId id), disk) := by
  have hrefused : guard.resolve disk.tree id = .error (.invalidDocumentId id) := by
    simp [RootGuard.resolve, hsafe]
  rw [outcome_load, hrefused]

theorem held_of_readText (habsolute : path.isAbsolute)
    (hread : readText disk path = .ok (some (text, modified))) :
    ∃ place, disk.tree.locate [] path = .ok place ∧
      disk.tree.get? place = some (.file text.toUTF8 modified) := by
  obtain ⟨place, content, hlocate, hitem⟩ := inv_readText habsolute hread
  refine ⟨place, hlocate, ?_⟩
  rw [← locate_of_isAbsolute _ disk.workingDirectory habsolute] at hlocate
  have hfile := read_of_locate hlocate
  rw [hitem] at hfile
  rw [readText, hfile] at hread
  cases hdecode : decodeUtf8 content with
  | error fault => simp [hdecode] at hread
  | ok decoded =>
      obtain rfl : decoded = text := by simpa [hdecode] using hread
      rw [hitem, toUTF8_of_decodeUtf8 hdecode]

theorem held_of_load (hwell : disk.tree.WellFormed) (hroot : disk.tree.isDirectory guard.root)
    (hload : ((load hash guard id).outcome disk).1 = .ok snapshot) :
    ∃ directory name modified,
      disk.tree.locate [] (.below guard.root id) = .ok (directory ++ [name]) ∧
        guard.root <+: directory ∧ disk.tree.IsCanonical directory ∧
        disk.tree.get? (directory ++ [name]) = some (.file snapshot.text.toUTF8 modified) ∧
        snapshot.revision = revisionFor hash snapshot.text modified := by
  obtain ⟨hresolve, modified, hbasis⟩ := basis_of_load hload
  obtain ⟨hread, hrevision⟩ := hbasis.inv_some
  obtain ⟨place, hlocate, hheld⟩ :=
    held_of_readText (PathText.isAbsolute_below guard.root id) hread
  have hinside : guard.root <+: place := by
    refine RootGuard.inside_of_resolve hresolve ?_
    simp [PathText.ancestors, hlocate, Except.toOption]
  have hne : place ≠ guard.root := by
    rintro rfl
    simp [isDirectory_iff, hheld] at hroot
  rcases List.eq_nil_or_concat place with rfl | ⟨directory, name, rfl⟩
  · exact absurd (List.prefix_nil.mp hinside).symm hne
  · rw [List.concat_eq_append] at hlocate hheld hinside hne
    have habove : disk.tree.isDirectory directory :=
      (hwell directory name (by simp [hheld])).1
    refine ⟨directory, name, modified, hlocate, ?_, hwell.isCanonical habove, hheld,
      hrevision.symm⟩
    exact (List.prefix_concat_iff.mp hinside).resolve_left hne.symm

/--
A load gives the text of a file below the root.  Ids that are absolute, lead up or end at a
place outside are refused, and the answer does not depend on what files outside hold.
-/
theorem load_stays_inside (hash : TextHash) (guard : RootGuard) (disk : Disk) (id : String)
    (hwell : disk.tree.WellFormed) (hroot : disk.tree.isDirectory guard.root) :
    (∀ snapshot, ((load hash guard id).run.run disk).1 = .ok snapshot →
        ∃ directory name modified,
          disk.tree.locate [] (.below guard.root id) = .ok (directory ++ [name]) ∧
            guard.root <+: directory ∧ disk.tree.IsCanonical directory ∧
            disk.tree.get? (directory ++ [name]) = some (.file snapshot.text.toUTF8 modified) ∧
            snapshot.revision = revisionFor hash snapshot.text modified) ∧
      ((PathText.mk id).isAbsolute ∨ (PathText.mk id).leadsUp →
        (load hash guard id).run.run disk = (.error (.invalidDocumentId id), disk)) ∧
      (∀ place, disk.tree.locate [] (.below guard.root id) = .ok place →
        ¬ guard.root <+: place →
          (load hash guard id).run.run disk = (.error (.invalidDocumentId id), disk)) ∧
      ∀ other : Disk, AgreeInside guard.root disk.tree other.tree →
        ((load hash guard id).run.run other).1 = ((load hash guard id).run.run disk).1 := by
  refine ⟨fun _ hload => held_of_load hwell hroot hload, ?_, ?_,
    fun _ hagree => load_of_agreeInside hagree⟩
  · intro hunsafe
    refine load_of_not_safe ?_
    rcases hunsafe with habsolute | hup
    · simp [RootGuard.isLexicallySafe, habsolute]
    · simp [RootGuard.isLexicallySafe, hup]
  · intro place hlocate houtside
    change (load hash guard id).outcome disk = _
    rw [outcome_load, RootGuard.resolve_of_outside hlocate houtside]

theorem load_through_detour :
    outAndBack.tree.WellFormed ∧ outAndBack.tree.isDirectory ["root"] ∧
      (load (fun _ => 0) ⟨["root"]⟩ "link").run.run outAndBack =
        (.error (.invalidDocumentId "link"), outAndBack) ∧
      ∃ directory name modified,
        outAndBack.tree.locate [] (.below ["root"] "link/doc.md") = .ok (directory ++ [name]) ∧
          ["root"] <+: directory ∧
          outAndBack.tree.get? (directory ++ [name]) = some (.file "a".toUTF8 modified) := by
  have hroot : outAndBack.tree.isDirectory ["root"] := by decide
  have hlink : outAndBack.tree.locate [] (.below ["root"] "link") = .ok ["out"] := by
    have hpath : PathText.below ["root"] "link" = .ofNames true ["root", "link"] := by decide
    rw [hpath]
    exact locate_outAndBack.2
  have hload : (load (fun _ => 0) ⟨["root"]⟩ "link/doc.md").outcome outAndBack =
      (.ok ⟨"a", revisionFor (fun _ => 0) "a" ⟨2000000001, 0⟩⟩, outAndBack) :=
    load_of_locate (by decide) locate_outAndBack.1 (List.prefix_append _ _) rfl
  obtain ⟨-, -, hrefused, -⟩ :=
    load_stays_inside (fun _ => 0) ⟨["root"]⟩ outAndBack "link" wellFormed_outAndBack hroot
  obtain ⟨hinside, -⟩ :=
    load_stays_inside (fun _ => 0) ⟨["root"]⟩ outAndBack "link/doc.md" wellFormed_outAndBack hroot
  obtain ⟨directory, name, modified, hlocate, hbelow, -, hheld, -⟩ :=
    hinside _ (congrArg Prod.fst hload)
  exact ⟨wellFormed_outAndBack, hroot, hrefused ["out"] hlink (by decide), directory, name,
    modified, hlocate, hbelow, hheld⟩

end Folder

end Sections
