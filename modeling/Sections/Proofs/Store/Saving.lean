import Sections.Proofs.Files.Replacement
import Sections.Proofs.Store.Confinement

/-!
# What comes of a save

A save that fails leaves all files as they are.  One that succeeds has put its text, dated later
than the text before it, at the last name of the path of the document, and no other file is
different.
-/

namespace Sections

namespace Folder

open ExceptT FileTree

/-! ## Where a text can be written -/

section Entries

variable {disk : Disk} {path : PathText} {place directory : Place} {text name : String}
  {above : List String} {modified : Timestamp}

theorem isLeaf_of_readText {found : Option (String × Timestamp)} (habsolute : path.isAbsolute)
    (hnames : path.names = above ++ [name])
    (henters : Enters disk.tree path above name directory)
    (hread : readText disk path = .ok found) : IsLeaf disk.tree directory name := by
  intro links left reached hleads hreached
  obtain ⟨left', habove, -⟩ := exists_leads_of_walk_dot henters.leads
  have hlocate : disk.tree.locate [] path =
      (disk.tree.walk left' directory [name]).mapError .system := by
    rw [FileTree.locate, henters.check, origin, if_pos habsolute, henters.steps_eq hnames,
      habove.walk_append]
    rfl
  rcases hleads.walk_of_links left' with hwalk | hwalk
  · rw [hwalk] at hlocate
    rw [← locate_of_isAbsolute disk.tree disk.workingDirectory habsolute] at hlocate
    have hfile := read_of_locate hlocate
    rw [isDirectory_iff.mp hreached] at hfile
    simp [readText, hfile, FileFault.isNotFound] at hread
  · rw [hwalk] at hlocate
    rw [readText_of_error habsolute hlocate] at hread
    simp [FileFault.isNotFound] at hread

theorem exists_enters_of_readText (habsolute : path.isAbsolute)
    (hup : ∀ name ∈ path.names, name ≠ "..")
    (hread : readText disk path = .ok (some (text, modified))) :
    ∃ above name directory, path.names = above ++ [name] ∧
      Enters disk.tree path above name directory := by
  obtain ⟨place, content, hlocate, hitem⟩ := inv_readText habsolute hread
  have hfile : ¬ disk.tree.isDirectory place := by simp [isDirectory_iff, hitem]
  obtain ⟨⟨⟩, hcheck, hwalk⟩ := inv_bind_ok hlocate
  have hsteps := inv_mapError_ok hwalk
  rw [origin, if_pos habsolute] at hsteps
  have hending : path.ending = .name := by
    by_contra hother
    rw [PathText.steps, if_neg hother] at hsteps
    obtain ⟨left, -, hdirectory⟩ := exists_leads_of_walk_dot hsteps
    exact hfile hdirectory
  rw [PathText.steps, if_pos hending, List.append_nil] at hsteps
  rcases List.eq_nil_or_concat path.names with hnil | ⟨above, name, hnames⟩
  · rw [hnil, walk] at hsteps
    cases hsteps
    exact absurd rfl hfile
  · rw [List.concat_eq_append] at hnames
    rw [hnames] at hsteps
    obtain ⟨left, directory, habove, hlast⟩ := exists_leads_of_walk_append hsteps
    have hdirectory := isDirectory_of_walk_cons hlast
    have hlead : disk.tree.walk mostLinks [] (above ++ ["."]) = .ok directory := by
      rw [habove.walk_append, walk_dot left hdirectory]
    have hname : name ≠ ".." := hup name (by simp [hnames])
    have hdot : name ≠ "." := (PathText.isName_of_last hnames).ne_dot
    have henters (hlength : name.utf8ByteSize ≤ longestName)
        (hfree : ¬ disk.tree.isDirectory (directory ++ [name])) :
        Enters disk.tree path above name directory :=
      ⟨⟨hcheck, hlead, by simp [hending], hname, hlength⟩, by simp [hending], hfree⟩
    refine ⟨above, name, directory, hnames, ?_⟩
    obtain ⟨left', hleads⟩ := exists_leads_of_walk hlast
    cases hleads with
    | dot => exact absurd rfl hdot
    | up => exact absurd rfl hname
    | link _ _ _ hlength hlink => exact henters hlength (by simp [isDirectory_iff, hlink])
    | item _ _ _ hlength _ _ hrest =>
        cases hrest
        exact henters hlength hfile

end Entries

/-! ## Writing a text -/

variable {hash : TextHash} {guard : RootGuard} {id : String} {disk after : Disk}
  {expected : Revision} {text name : String} {above : List String} {directory : Place}
  {modified : Timestamp}

/--
What it means that the text of a document was stored: its path leads to a file with the
text in the directory that it led to before, or in a new one inside the root, and all other
files are as they were.
-/
structure Stored (guard : RootGuard) (disk after : Disk) (id text : String) (modified : Timestamp)
    (above : List String) (name : String) (directory : Place) : Prop where
  names : (PathText.below guard.root id).names = above ++ [name]
  room : Disk.HasRoom (.below guard.root id)
  leads : after.tree.locate [] (.below guard.root id) = .ok (directory ++ [name])
  parent : after.tree.locate [] (.ofNames true above) = .ok directory
  held : after.tree.get? (directory ++ [name]) = some (.file text.toUTF8 modified)
  others : ∀ other, other ≠ directory ++ [name] → after.tree.file? other = disk.tree.file? other
  wellFormed : after.tree.WellFormed
  directories : ∀ place, disk.tree.isDirectory place → after.tree.isDirectory place
  origin : disk.tree.locate [] (.ofNames true above) = .ok directory ∨
    guard.root <+: directory ∧ ∀ found, disk.tree.locate [] (.ofNames true above) ≠ .ok found

theorem Stored.readText (hstored : Stored guard disk after id text modified above name directory) :
    readText after (.below guard.root id) = .ok (some (text, modified)) :=
  readText_of_locate (PathText.isAbsolute_below guard.root id) hstored.leads hstored.held

theorem stored_of_replaced {base : Place} {made : List FileEffect}
    (hnames : (PathText.below guard.root id).names = above ++ [name])
    (hroom : Disk.HasRoom (.below guard.root id)) (hbuilds : Disk.Builds base disk made)
    (henters : Enters (disk.allChanged made).tree (.below guard.root id) above name directory)
    (hleaf : IsLeaf (disk.allChanged made).tree directory name)
    (hreplaced : Replaced (disk.allChanged made).tree after.tree (directory ++ [name]) text.toUTF8
      modified)
    (horigin : disk.tree.locate [] (.ofNames true above) = .ok directory ∨
      guard.root <+: directory ∧ ∀ found, disk.tree.locate [] (.ofNames true above) ≠ .ok found) :
    Stored guard disk after id text modified above name directory := by
  have habsolute := PathText.isAbsolute_below guard.root id
  obtain ⟨-, -, hdirectory⟩ := exists_leads_of_walk_dot henters.leads
  obtain ⟨hleads, hparent⟩ := hreplaced.locate habsolute hnames henters hleaf
  have hname := PathText.isName_of_last hnames
  constructor
  case names => exact hnames
  case room => exact hroom
  case leads => exact hleads
  case parent => exact hparent
  case held => exact hreplaced.held
  case others =>
    intro other hother
    rw [hreplaced.file? hother, hbuilds.files other]
  case wellFormed =>
    exact hreplaced.wellFormed hbuilds.wellFormed henters.free hdirectory ⟨hname, henters.ne_up⟩
  case directories =>
    intro place hplace
    exact hreplaced.isDirectory henters.free (hbuilds.larger.isDirectory hplace)
  case origin => exact horigin

theorem stored_of_current {current : String} {dated : Timestamp} (hwell : disk.tree.WellFormed)
    (hroot : disk.tree.isDirectory guard.root)
    (hresolve : guard.resolve disk.tree id = .ok (.below guard.root id))
    (hread : readText disk (.below guard.root id) = .ok (some (current, dated))) (text : String)
    (modified : Timestamp) :
    (∃ fault, ¬ Disk.HasRoom (.below guard.root id) ∧
      (Disk.writeFile (.below guard.root id) text.toUTF8 modified).outcome disk =
        (.error fault, disk)) ∨
      ∃ above name directory after,
        (Disk.writeFile (.below guard.root id) text.toUTF8 modified).outcome disk =
          (.ok (), after) ∧
        Stored guard disk after id text modified above name directory := by
  have habsolute := PathText.isAbsolute_below guard.root id
  obtain ⟨above, name, directory, hnames, henters⟩ :=
    exists_enters_of_readText habsolute (names_ne_up hwell hroot hresolve) hread
  obtain ⟨-, -, hdirectory⟩ := exists_leads_of_walk_dot henters.leads
  have hparent := henters.locate_directory habsolute hnames
  rw [Disk.outcome_writeFile_of_directory habsolute hnames hparent hdirectory]
  by_cases hroom : Disk.HasRoom (.below guard.root id)
  · right
    have hreplace := Disk.replacement_replaceFile habsolute hnames henters.leads text.toUTF8
      modified
    generalize (Disk.replaceFile directory (.below guard.root id) text.toUTF8 modified).outcome
      disk = attempt at hreplace
    cases hreplace with
    | refused fault after hrefused => exact absurd hroom (hrefused henters)
    | placed after henters hroom hreplaced =>
        exact ⟨above, name, directory, after, rfl,
          stored_of_replaced hnames hroom (.nil directory hwell) henters
            (isLeaf_of_readText habsolute hnames henters hread) hreplaced (.inl hparent)⟩
  · left
    obtain ⟨fault, hreplace⟩ := Disk.outcome_replaceFile_of_not_hasRoom hroom directory text.toUTF8
      modified
    exact ⟨fault, hroom, hreplace⟩

theorem stored_of_opened {front missing : List String} {base : Place} {made : List FileEffect}
    (hnames : (PathText.below guard.root id).names = front ++ missing ++ [name])
    (hbuilds : Disk.Builds base disk made)
    (hopened : Disk.Opened base disk made front missing directory)
    (hnear : Disk.Nearest disk.tree front missing base) (hinside : guard.root <+: base)
    (hread : readText disk (.below guard.root id) = .ok none) (text : String)
    (modified : Timestamp) :
    (∃ fault after,
      (Disk.replaceFile directory (.below guard.root id) text.toUTF8 modified).outcome
        (disk.allChanged made) = (.error fault, after) ∧ SameFiles disk.tree after.tree) ∨
      ∃ after,
        (Disk.replaceFile directory (.below guard.root id) text.toUTF8 modified).outcome
          (disk.allChanged made) = (.ok (), after) ∧
        Stored guard disk after id text modified (front ++ missing) name directory := by
  have habsolute := PathText.isAbsolute_below guard.root id
  have hname := PathText.isName_of_last hnames
  have hwalk := Disk.walk_dot_of_locate (PathText.isName_of_front hnames) hopened.leads
    hopened.isDirectory
  have hreplace := Disk.replacement_replaceFile habsolute hnames hwalk text.toUTF8 modified
  generalize (Disk.replaceFile directory (.below guard.root id) text.toUTF8 modified).outcome
    (disk.allChanged made) = attempt at hreplace
  cases hreplace with
  | refused fault after hrefused hsame =>
      refine .inl ⟨fault, after, rfl, ?_⟩
      intro place
      rw [file?_congr (hsame place), hbuilds.files place]
  | placed after henters hroom hreplaced =>
      refine .inr ⟨after, rfl, stored_of_replaced hnames hroom hbuilds henters ?_ hreplaced ?_⟩
      · by_cases hne : missing = []
        · obtain ⟨rfl, -⟩ := hopened.unchanged hne
          exact isLeaf_of_readText habsolute hnames henters hread
        · exact isLeaf_of_free hname.ne_dot henters.ne_up (hopened.empty hne name)
      · by_cases hne : missing = []
        · obtain ⟨rfl, rfl⟩ := hopened.unchanged hne
          exact .inl hopened.leads
        · exact .inr ⟨hinside.trans hopened.below, hnear.absent missing hne List.prefix_rfl⟩

theorem stored_of_missing (hwell : disk.tree.WellFormed) (hroot : disk.tree.isDirectory guard.root)
    (hresolve : guard.resolve disk.tree id = .ok (.below guard.root id))
    (hread : readText disk (.below guard.root id) = .ok none) (text : String)
    (modified : Timestamp) :
    (∃ fault after, (Disk.writeFile (.below guard.root id) text.toUTF8 modified).outcome disk =
        (.error fault, after) ∧ SameFiles disk.tree after.tree) ∨
      ∃ above name directory after,
        (Disk.writeFile (.below guard.root id) text.toUTF8 modified).outcome disk =
          (.ok (), after) ∧
        Stored guard disk after id text modified above name directory := by
  have habsolute := PathText.isAbsolute_below guard.root id
  rcases List.eq_nil_or_concat (PathText.below guard.root id).names with
    hnil | ⟨above, name, hnames⟩
  · have hparent : (PathText.below guard.root id).parent? = none := by
      simp [PathText.parent?, hnil]
    refine .inl ⟨.noParent, disk, ?_, fun _ => rfl⟩
    simp [Disk.writeFile, hparent]
  · rw [List.concat_eq_append] at hnames
    have hmissing (place : Place) : disk.tree.locate [] (.below guard.root id) ≠ .ok place :=
      fun hlocate => readText_ne_none hwell habsolute hlocate hread
    have hup := names_ne_up hwell hroot hresolve
    obtain ⟨front, missing, base, rfl, hnear, hinside⟩ :=
      RootGuard.nearest_of_resolve hresolve hmissing hnames
    obtain ⟨made, hbuilds, ⟨fault, hfault⟩ | ⟨directory, hopened, hwrite⟩⟩ :=
      Disk.outcome_writeFile_of_nearest hwell habsolute hnames
        (fun piece hpiece => hup piece (by simp [hnames, hpiece])) hnear text.toUTF8 modified
    · exact .inl ⟨fault, _, hfault, hbuilds.files⟩
    · rw [hwrite]
      rcases stored_of_opened hnames hbuilds hopened hnear hinside hread text modified with
        hfailed | ⟨after, hreplace, hstored⟩
      · exact .inl hfailed
      · exact .inr ⟨front ++ missing, name, directory, after, hreplace, hstored⟩

/-! ## Saving a text -/

/--
What comes of saving a document that is there.  It is refused by the guard, or it is at
another revision, or its path leaves no room for a temporary file, or the new text is stored;
nothing else can happen.
-/
inductive Updated (hash : TextHash) (guard : RootGuard) (now : Timestamp) (disk : Disk)
    (id text : String) (expected : Revision) (writePatch : PatchWriter) (current : String)
    (dated : Timestamp) : Except DocError Commit × Disk → Prop
  | refused (fault : DocError) (hresolve : guard.resolve disk.tree id = .error fault) :
      Updated hash guard now disk id text expected writePatch current dated (.error fault, disk)
  | stale (hresolve : guard.resolve disk.tree id = .ok (.below guard.root id))
      (hrevision : revisionFor hash current dated ≠ expected) :
      Updated hash guard now disk id text expected writePatch current dated
        (.error (.revisionConflict (revisionFor hash current dated)), disk)
  | crowded (fault : DocError)
      (hresolve : guard.resolve disk.tree id = .ok (.below guard.root id))
      (hroom : ¬ Disk.HasRoom (.below guard.root id)) :
      Updated hash guard now disk id text expected writePatch current dated (.error fault, disk)
  | stored (above : List String) (name : String) (directory : Place) (after : Disk)
      (hresolve : guard.resolve disk.tree id = .ok (.below guard.root id))
      (hrevision : revisionFor hash current dated = expected)
      (hstored : Stored guard disk after id text (Timestamp.following (some dated) now) above name
        directory) :
      Updated hash guard now disk id text expected writePatch current dated
        (.ok ⟨revisionFor hash text (Timestamp.following (some dated) now),
          writePatch current text⟩, after)

/-- What a save goes by: the document at the expected revision, or that there is none. -/
inductive Basis (hash : TextHash) (guard : RootGuard) (disk : Disk) (id : String)
    (expected : Revision) : String → Option Timestamp → Prop
  | missing (hread : readText disk (.below guard.root id) = .ok none) :
      Basis hash guard disk id expected "" none
  | current (old : String) (dated : Timestamp)
      (hread : readText disk (.below guard.root id) = .ok (some (old, dated)))
      (hrevision : revisionFor hash old dated = expected) :
      Basis hash guard disk id expected old (some dated)

/--
What comes of any save.  It fails without a change of any file, which it does for a document
at the expected revision only if its path leaves no room, or it stores the text.
-/
inductive Saved (hash : TextHash) (guard : RootGuard) (now : Timestamp) (disk : Disk)
    (id text : String) (expected : Revision) (writePatch : PatchWriter) :
    Except DocError Commit × Disk → Prop
  | failed (fault : DocError) (after : Disk) (hfiles : SameFiles disk.tree after.tree)
      (hbasis : guard.resolve disk.tree id = .ok (.below guard.root id) →
        ∀ old dated, Basis hash guard disk id expected old (some dated) →
          ¬ Disk.HasRoom (.below guard.root id)) :
      Saved hash guard now disk id text expected writePatch (.error fault, after)
  | stored (old : String) (previous : Option Timestamp) (above : List String) (name : String)
      (directory : Place) (after : Disk)
      (hresolve : guard.resolve disk.tree id = .ok (.below guard.root id))
      (hbasis : Basis hash guard disk id expected old previous)
      (hstored : Stored guard disk after id text (Timestamp.following previous now) above name
        directory) :
      Saved hash guard now disk id text expected writePatch
        (.ok ⟨revisionFor hash text (Timestamp.following previous now), writePatch old text⟩, after)

theorem outcome_commit_of_stored {now : Timestamp} {writePatch : PatchWriter} {old : String}
    {previous : Option Timestamp}
    (hwrite : (Disk.writeFile (.below guard.root id) text.toUTF8
      (Timestamp.following previous now)).outcome disk = (.ok (), after))
    (hstored : Stored guard disk after id text (Timestamp.following previous now) above name
      directory) :
    (save.commit hash now id text writePatch (.below guard.root id) old previous).outcome disk =
      (.ok ⟨revisionFor hash text (Timestamp.following previous now), writePatch old text⟩,
        after) := by
  rw [outcome_commit, hwrite]
  simp only [hstored.readText]

theorem updated_save {current : String} {dated : Timestamp} (hash : TextHash) (now : Timestamp)
    (text : String) (expected : Revision) (writePatch : PatchWriter) (hwell : disk.tree.WellFormed)
    (hroot : disk.tree.isDirectory guard.root)
    (hread : readText disk (.below guard.root id) = .ok (some (current, dated))) :
    Updated hash guard now disk id text expected writePatch current dated
      ((save hash guard now id text expected writePatch).outcome disk) := by
  rw [outcome_save]
  cases hresolve : guard.resolve disk.tree id with
  | error fault => exact .refused fault hresolve
  | ok path =>
      obtain ⟨-, rfl⟩ := RootGuard.eq_of_resolve hresolve
      simp only [hread]
      by_cases hrevision : revisionFor hash current dated = expected
      · rw [if_pos hrevision]
        rcases stored_of_current hwell hroot hresolve hread text
            (Timestamp.following (some dated) now) with
          ⟨fault, hroom, hwrite⟩ | ⟨above, name, directory, after, hwrite, hstored⟩
        · rw [outcome_commit, hwrite]
          exact .crowded _ hresolve hroom
        · rw [outcome_commit_of_stored hwrite hstored]
          exact .stored above name directory after hresolve hrevision hstored
      · rw [if_neg hrevision]
        exact .stale hresolve hrevision

theorem Basis.inv_some {old : String} {dated : Timestamp}
    (hbasis : Basis hash guard disk id expected old (some dated)) :
    readText disk (.below guard.root id) = .ok (some (old, dated)) ∧
      revisionFor hash old dated = expected := by
  cases hbasis with
  | current _ _ hread hrevision => exact ⟨hread, hrevision⟩

theorem load_of_locate {place : Place} (hsafe : RootGuard.isLexicallySafe id)
    (hlocate : disk.tree.locate [] (.below guard.root id) = .ok place)
    (hinside : guard.root <+: place)
    (hheld : disk.tree.get? place = some (.file text.toUTF8 modified)) :
    (load hash guard id).outcome disk = (.ok ⟨text, revisionFor hash text modified⟩, disk) := by
  have hread := readText_of_locate (PathText.isAbsolute_below guard.root id) hlocate hheld
  rw [outcome_load, RootGuard.resolve_of_inside hsafe hlocate hinside]
  simp only [hread]

theorem load_of_basis {old : String} {previous : Option Timestamp}
    (hresolve : guard.resolve disk.tree id = .ok (.below guard.root id))
    (hbasis : Basis hash guard disk id expected old previous) :
    ((load hash guard id).outcome disk).1 = .error (.notFound id) ∧ old = "" ∨
      ((load hash guard id).outcome disk).1 = .ok ⟨old, expected⟩ := by
  rw [outcome_load, hresolve]
  cases hbasis with
  | missing hread =>
      left
      simp only [hread, and_self]
  | current old dated hread hrevision =>
      right
      simp only [hread, hrevision]

theorem basis_of_load {old : String}
    (hload : ((load hash guard id).outcome disk).1 = .ok ⟨old, expected⟩) :
    guard.resolve disk.tree id = .ok (.below guard.root id) ∧
      ∃ dated, Basis hash guard disk id expected old (some dated) := by
  rw [outcome_load] at hload
  cases hresolve : guard.resolve disk.tree id with
  | error fault => simp [hresolve] at hload
  | ok path =>
      obtain ⟨-, rfl⟩ := RootGuard.eq_of_resolve hresolve
      refine ⟨rfl, ?_⟩
      rcases hread : readText disk (.below guard.root id) with fault | _ | ⟨text, dated⟩
      · simp [hresolve, hread] at hload
      · simp [hresolve, hread] at hload
      · obtain ⟨rfl, hrevision⟩ : text = old ∧ revisionFor hash text dated = expected := by
          simpa [hresolve, hread] using hload
        exact ⟨dated, .current text dated hread hrevision⟩

theorem saved_save (now : Timestamp) (text : String) (writePatch : PatchWriter)
    (hwell : disk.tree.WellFormed) (hroot : disk.tree.isDirectory guard.root) :
    Saved hash guard now disk id text expected writePatch
      ((save hash guard now id text expected writePatch).outcome disk) := by
  cases hresolve : guard.resolve disk.tree id with
  | error fault =>
      rw [outcome_save, hresolve]
      exact .failed fault disk (fun _ => rfl) fun hother => by simp [hresolve] at hother
  | ok path =>
      obtain ⟨-, rfl⟩ := RootGuard.eq_of_resolve hresolve
      rcases hread : readText disk (.below guard.root id) with fault | _ | ⟨current, dated⟩
      · rw [outcome_save, hresolve]
        simp only [hread]
        refine .failed fault disk (fun _ => rfl) fun _ old dated hbasis => ?_
        obtain ⟨hother, -⟩ := hbasis.inv_some
        simp [hread] at hother
      · rw [outcome_save, hresolve]
        simp only [hread]
        rcases stored_of_missing hwell hroot hresolve hread text (Timestamp.following none now) with
          ⟨fault, after, hwrite, hfiles⟩ | ⟨above, name, directory, after, hwrite, hstored⟩
        · simp only [outcome_commit, hwrite]
          refine .failed _ after hfiles fun _ old dated hbasis => ?_
          obtain ⟨hother, -⟩ := hbasis.inv_some
          simp [hread] at hother
        · simp only [outcome_commit_of_stored hwrite hstored]
          exact .stored "" none above name directory after hresolve (.missing hread) hstored
      · have hupdated := updated_save hash now text expected writePatch hwell hroot hread
        generalize (save hash guard now id text expected writePatch).outcome disk =
          attempt at hupdated
        cases hupdated with
        | refused fault hrefused => simp [hresolve] at hrefused
        | stale _ hrevision =>
            refine .failed _ disk (fun _ => rfl) fun _ old other hbasis => ?_
            obtain ⟨hother, hsame⟩ := hbasis.inv_some
            rw [hread] at hother
            cases hother
            exact absurd hsame hrevision
        | crowded fault _ hroom =>
            exact .failed fault disk (fun _ => rfl) fun _ _ _ _ => hroom
        | stored above name directory after _ hrevision hstored =>
            exact .stored current (some dated) above name directory after hresolve
              (.current current dated hread hrevision) hstored

end Folder

end Sections
