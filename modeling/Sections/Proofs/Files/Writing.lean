import Sections.Proofs.Files.Directories
import Sections.Proofs.Fresh
import Sections.Proofs.Text.Numeral

/-!
# Writing a file

A file is written in the directory that the names before its last one lead to: a temporary file is
made there, and then moved to its place or removed.
-/

namespace Sections

/-- What it takes for a file to be moved to the last name of a path. -/
structure FileTree.Enters (tree : FileTree) (path : PathText) (above : List String) (name : String)
    (directory : Place) : Prop extends IsEntry tree path above name directory where
  ne_slash : path.ending ≠ .slash
  free : ¬ tree.isDirectory (directory ++ [name])

namespace Disk

open ExceptT FileTree

theorem temporaryName_injective (directory : Place) :
    Function.Injective fun number : Nat => directory ++ [".tmp" ++ paddedDecimal 6 number] := by
  intro first second h
  have hdigits : paddedDecimal 6 first = paddedDecimal 6 second := by simpa using h
  exact eq_of_paddedDecimal_eq hdigits

theorem get?_temporaryName (tree : FileTree) (directory : Place) :
    tree.get? (directory ++ [temporaryName tree directory]) = none := by
  obtain ⟨number, hnumber, hfresh⟩ :=
    exists_fresh (temporaryName_injective directory) (tree.items.map Prod.fst) 0
  have hfree : tree.get? (directory ++ [".tmp" ++ paddedDecimal 6 number]) = none := by
    rw [get?, if_neg (by simp)]
    exact lookup_eq_none_of_notMem hfresh
  obtain ⟨found, hfound⟩ : ∃ found, ((List.range (tree.items.length + 1)).map
      fun number => ".tmp" ++ paddedDecimal 6 number).find?
      (fun name => (tree.get? (directory ++ [name])).isNone) = some found := by
    refine Option.isSome_iff_exists.mp (List.find?_isSome.mpr
      ⟨_, List.mem_map_of_mem ?_, by simpa using hfree⟩)
    rwa [List.length_map, ← List.range_eq_range'] at hnumber
  rw [temporaryName, hfound]
  simpa using List.find?_some hfound

theorem hasRoom_of_short {path : PathText}
    (hshort : path.text.utf8ByteSize + 1 + temporaryNameLength ≤ longestPath) : HasRoom path := by
  have hlead := utf8ByteSize_le_of_sublist (PathText.toList_lead_sublist path)
  unfold HasRoom
  omega

variable {disk : Disk} {path : PathText} {name : String}

theorem outcome_moveTo_cases {above : List String} (habsolute : path.isAbsolute)
    (hnames : path.names = above ++ [name]) (disk : Disk) (source : Place) :
    (∃ directory, Enters disk.tree path above name directory ∧
      (moveTo source path).outcome disk =
        (.ok (), disk.changed (.move source (directory ++ [name])))) ∨
      ∃ fault, (moveTo source path).outcome disk = (.error fault, disk) ∧
        ∀ directory, ¬ Enters disk.tree path above name directory := by
  rw [outcome_moveTo]
  by_cases henters : ∃ directory, Enters disk.tree path above name directory
  · obtain ⟨directory, henters⟩ := henters
    refine .inl ⟨directory, henters, ?_⟩
    rw [henters.toIsEntry.locateEntry habsolute hnames]
    simp [henters.ne_slash, henters.free]
  · have hnot := not_exists.mp henters
    right
    cases hentry : disk.tree.locateEntry disk.workingDirectory path with
    | error fault => exact ⟨fault, rfl, hnot⟩
    | ok entry =>
        cases entry with
        | none => exact ⟨_, rfl, hnot⟩
        | some target =>
            obtain ⟨directory, rfl, hplace⟩ := isEntry_of_locateEntry habsolute hnames hentry
            by_cases hslash : path.ending = .slash
            · exact ⟨.system .notDirectory, by simp [hslash], hnot⟩
            · by_cases hdirectory : disk.tree.isDirectory (directory ++ [name])
              · exact ⟨.system .isDirectory, by simp [hslash, hdirectory], hnot⟩
              · exact absurd ⟨hplace, hslash, hdirectory⟩ (hnot directory)

theorem confined_replaceFile {above : List String} {directory : Place}
    (habsolute : path.isAbsolute) (hnames : path.names = above ++ [name])
    (hcanonical : disk.tree.IsCanonical directory)
    (hwalk : disk.tree.walk mostLinks [] (above ++ ["."]) = .ok directory) (hroom : HasRoom path)
    (content : ByteArray) (modified : Timestamp) :
    ∃ result temporary last, (replaceFile directory path content modified).outcome disk =
        (result, disk.allChanged
          [.createFile (directory ++ [temporary]) content modified, last]) ∧
      FileEffect.AllConfined directory disk.tree
        [.createFile (directory ++ [temporary]) content modified, last] := by
  have hfree := get?_temporaryName disk.tree directory
  rw [outcome_replaceFile]
  simp only [if_pos hroom]
  generalize temporaryName disk.tree directory = temporary at hfree ⊢
  have hextends : Extends disk.tree
      (disk.changed (.createFile (directory ++ [temporary]) content modified)).tree :=
    extends_put hfree (.file content modified)
  have hcanonical' := hcanonical.extends hextends
  have hcreate : (FileEffect.createFile (directory ++ [temporary]) content modified).IsConfined
      directory disk.tree := by
    intro place hplace
    exact ⟨directory, temporary, List.mem_singleton.mp hplace, List.prefix_rfl, hcanonical⟩
  rcases outcome_moveTo_cases habsolute hnames
      (disk.changed (.createFile (directory ++ [temporary]) content modified))
      (directory ++ [temporary]) with
    ⟨found, henters, hmove⟩ | ⟨fault, hmove, -⟩
  · obtain rfl : directory = found :=
      Except.ok.inj ((hextends.walk hwalk).symm.trans henters.leads)
    refine ⟨.ok (), temporary, .move (directory ++ [temporary]) (directory ++ [name]),
      by rw [hmove]; rfl, hcreate, ?_, trivial⟩
    intro place hplace
    rcases List.mem_pair.mp hplace with hsource | htarget
    · exact ⟨directory, temporary, hsource, List.prefix_rfl, hcanonical'⟩
    · exact ⟨directory, name, htarget, List.prefix_rfl, hcanonical'⟩
  · refine ⟨.error fault, temporary, .remove (directory ++ [temporary]), by rw [hmove]; rfl,
      hcreate, ?_, trivial⟩
    intro place hplace
    exact ⟨directory, temporary, List.mem_singleton.mp hplace, List.prefix_rfl, hcanonical'⟩

theorem outcome_replaceFile_of_not_hasRoom (hroom : ¬ HasRoom path) (directory : Place)
    (content : ByteArray) (modified : Timestamp) :
    ∃ fault, (replaceFile directory path content modified).outcome disk = (.error fault, disk) := by
  rw [outcome_replaceFile]
  exact ⟨_, if_neg hroom⟩

theorem outcome_writeFile_of_directory {above : List String} {directory : Place}
    (habsolute : path.isAbsolute) (hnames : path.names = above ++ [name])
    (hlocate : disk.tree.locate [] (.ofNames true above) = .ok directory)
    (hdirectory : disk.tree.isDirectory directory) (content : ByteArray) (modified : Timestamp) :
    (writeFile path content modified).outcome disk =
      (replaceFile directory path content modified).outcome disk := by
  have habove := PathText.isName_of_front hnames
  obtain ⟨fault, hmake⟩ :=
    outcome_makeDirectories_of_locate habove hlocate (PathText.ofNames true above).names.length
  rw [if_pos hdirectory] at hmake
  rw [outcome_writeFile _ _ (PathText.parent?_of_names habsolute hnames), createDirectories, hmake]
  dsimp only
  rw [locate_of_isAbsolute _ _ (PathText.isAbsolute_ofNames _), hlocate]

theorem outcome_writeFile_of_nearest {front missing : List String} {base : Place}
    (hwell : disk.tree.WellFormed) (habsolute : path.isAbsolute)
    (hnames : path.names = front ++ missing ++ [name]) (hup : ∀ piece ∈ missing, piece ≠ "..")
    (hnear : Nearest disk.tree front missing base) (content : ByteArray) (modified : Timestamp) :
    ∃ made, Builds base disk made ∧
      ((∃ fault, (writeFile path content modified).outcome disk =
          (.error fault, disk.allChanged made)) ∨
        ∃ directory, Opened base disk made front missing directory ∧
          (writeFile path content modified).outcome disk =
            (replaceFile directory path content modified).outcome (disk.allChanged made)) := by
  have habove := PathText.isName_of_front hnames
  have hmakes := makes_makeDirectories hwell habove hup hnear
    (PathText.ofNames true (front ++ missing)).names.length
  rw [outcome_writeFile _ _ (PathText.parent?_of_names habsolute hnames), createDirectories]
  generalize (makeDirectories _ (.ofNames true (front ++ missing))).outcome disk =
    attempt at hmakes
  cases hmakes with
  | failed fault made hbuilds => exact ⟨made, hbuilds, .inl ⟨fault, rfl⟩⟩
  | opened made directory hbuilds hopened =>
      refine ⟨made, hbuilds, .inr ⟨directory, hopened, ?_⟩⟩
      dsimp only
      rw [locate_of_isAbsolute _ _ (PathText.isAbsolute_ofNames _), hopened.leads]

theorem confined_writeFile_of_directory {above : List String} {directory : Place}
    (hwell : disk.tree.WellFormed) (habsolute : path.isAbsolute)
    (hnames : path.names = above ++ [name])
    (hlocate : disk.tree.locate [] (.ofNames true above) = .ok directory)
    (hdirectory : disk.tree.isDirectory directory) (hroom : HasRoom path) (content : ByteArray)
    (modified : Timestamp) :
    ∃ result temporary last, (writeFile path content modified).outcome disk =
        (result, disk.allChanged
          [.createFile (directory ++ [temporary]) content modified, last]) ∧
      FileEffect.AllConfined directory disk.tree
        [.createFile (directory ++ [temporary]) content modified, last] := by
  have habove := PathText.isName_of_front hnames
  rw [outcome_writeFile_of_directory habsolute hnames hlocate hdirectory]
  exact confined_replaceFile habsolute hnames (hwell.isCanonical hdirectory)
    (walk_dot_of_locate habove hlocate hdirectory) hroom content modified

theorem confined_writeFile_of_nearest {front missing : List String} {base : Place}
    (hwell : disk.tree.WellFormed) (habsolute : path.isAbsolute)
    (hnames : path.names = front ++ missing ++ [name]) (hup : ∀ piece ∈ missing, piece ≠ "..")
    (hnear : Nearest disk.tree front missing base) (content : ByteArray) (modified : Timestamp) :
    ∃ result made, (writeFile path content modified).outcome disk =
        (result, disk.allChanged made) ∧
      FileEffect.AllConfined base disk.tree made := by
  have habove := PathText.isName_of_front hnames
  obtain ⟨made, hbuilds, ⟨fault, hfault⟩ | ⟨directory, hopened, hwrite⟩⟩ :=
    outcome_writeFile_of_nearest hwell habsolute hnames hup hnear content modified
  · exact ⟨.error fault, made, hfault, hbuilds.confined⟩
  · by_cases hroom : HasRoom path
    · obtain ⟨result, temporary, last, hreplace, hconfined⟩ :=
        confined_replaceFile habsolute hnames
          (hbuilds.wellFormed.isCanonical hopened.isDirectory)
          (walk_dot_of_locate habove hopened.leads hopened.isDirectory) hroom content modified
      refine ⟨result, made ++ [.createFile (directory ++ [temporary]) content modified, last],
        ?_, ?_⟩
      · rw [hwrite, hreplace]
        simp [allChanged]
      · rw [tree_allChanged] at hconfined
        exact hbuilds.confined.append (hconfined.mono hopened.below)
    · obtain ⟨fault, hreplace⟩ :=
        outcome_replaceFile_of_not_hasRoom hroom directory content modified
      exact ⟨.error fault, made, hwrite.trans hreplace, hbuilds.confined⟩

end Disk

end Sections
