import Sections.Proofs.Store.FileRevision
import Sections.Proofs.Store.Saving

/-!
# The versions of a stored document

A document in a folder is saved again and again, while the clock may stand still or go back.  Each
version is dated later than the one before it, so that no revision is that of two versions, and a
save that goes by an old one does not succeed.
-/

namespace Sections.Folder

open ExceptT FileTree

structure SaveRequest where
  now : Timestamp
  text : String
  expected : Revision
  writePatch : PatchWriter

/-- A revision of a document, and how its file was dated then. -/
structure Version where
  modified : Option Timestamp
  revision : Revision
  deriving DecidableEq, Repr

/-- A disk with the versions of a document on it so far, the last one first. -/
structure History where
  disk : Disk
  versions : List Version

def modifiedAt (guard : RootGuard) (id : String) (disk : Disk) : Option Timestamp :=
  (disk.tree.read disk.workingDirectory (.below guard.root id)).toOption.map Prod.snd

/-- Whether the path of a document leads out of the root up to its last name. -/
def EndsOutside (guard : RootGuard) (disk : Disk) (id : String) : Prop :=
  ∃ parent directory, (PathText.below guard.root id).parent? = some parent ∧
    disk.tree.locate [] parent = .ok directory ∧ ¬ guard.root <+: directory

section Definitions

variable (hash : TextHash) (guard : RootGuard) (id : String)

namespace History

def start (disk : Disk) (snapshot : Snapshot) : History :=
  ⟨disk, [⟨modifiedAt guard id disk, snapshot.revision⟩]⟩

def perform (history : History) (request : SaveRequest) : History :=
  let saved := (save hash guard request.now id request.text request.expected
    request.writePatch).run.run history.disk
  ⟨saved.2,
    match saved.1 with
    | .ok commit => ⟨modifiedAt guard id saved.2, commit.revision⟩ :: history.versions
    | .error _ => history.versions⟩

def run (history : History) (requests : List SaveRequest) : History :=
  requests.foldl (perform hash guard id) history

end History

end Definitions

structure Edition where
  text : String
  modified : Timestamp

def Edition.version (hash : TextHash) (edition : Edition) : Version :=
  ⟨some edition.modified, revisionFor hash edition.text edition.modified⟩

variable {hash : TextHash} {guard : RootGuard} {id : String} {disk : Disk} {history : History}
  {above : List String} {name : String} {directory : Place} {current : Edition}
  {older : List Edition}

/--
What stays true while a document is saved again and again: the versions are those of its
editions so far, each modified later than the one before it, and the last one is on the
disk.  The directory of its path stays where it is.  From the first save on the file itself
is there, in place of any link.
-/
structure Chronicle (hash : TextHash) (guard : RootGuard) (id : String) (above : List String)
    (name : String) (directory : Place) (history : History) (current : Edition)
    (older : List Edition) : Prop where
  wellFormed : history.disk.tree.WellFormed
  root : history.disk.tree.isDirectory guard.root
  reads : readText history.disk (.below guard.root id) = .ok (some (current.text, current.modified))
  versions : history.versions = (current :: older).map (Edition.version hash)
  ordered : (current :: older).Pairwise fun later earlier => earlier.modified < later.modified
  nanos : ∀ edition ∈ current :: older, edition.modified.nanos < Timestamp.nanosPerSecond
  parent : history.disk.tree.locate [] (.ofNames true above) = .ok directory
  unmoved : older = [] → guard.resolve history.disk.tree id = .ok (.below guard.root id)
  moved : older ≠ [] →
    history.disk.tree.locate [] (.below guard.root id) = .ok (directory ++ [name])

theorem modifiedAt_of_readText {text : String} {modified : Timestamp}
    (hread : readText disk (.below guard.root id) = .ok (some (text, modified))) :
    modifiedAt guard id disk = some modified := by
  obtain ⟨place, content, hlocate, hheld⟩ :=
    inv_readText (PathText.isAbsolute_below guard.root id) hread
  rw [← locate_of_isAbsolute disk.tree disk.workingDirectory
    (PathText.isAbsolute_below guard.root id)] at hlocate
  have hfile := read_of_locate hlocate
  rw [hheld] at hfile
  rw [modifiedAt, hfile]
  rfl

theorem exists_chronicle_of_load {snapshot : Snapshot} (hwell : disk.tree.WellFormed)
    (hroot : disk.tree.isDirectory guard.root)
    (hload : ((load hash guard id).run.run disk).1 = .ok snapshot)
    (hnanos : ∀ modified, modifiedAt guard id disk = some modified →
      modified.nanos < Timestamp.nanosPerSecond) :
    ∃ above name directory current, (PathText.below guard.root id).names = above ++ [name] ∧
      Chronicle hash guard id above name directory (.start guard id disk snapshot) current [] := by
  obtain ⟨text, revision⟩ := snapshot
  obtain ⟨hresolve, modified, hbasis⟩ := basis_of_load hload
  obtain ⟨hread, rfl⟩ := hbasis.inv_some
  have habsolute := PathText.isAbsolute_below guard.root id
  obtain ⟨above, name, directory, hnames, henters⟩ :=
    exists_enters_of_readText habsolute (names_ne_up hwell hroot hresolve) hread
  have hmodified := modifiedAt_of_readText hread
  refine ⟨above, name, directory, ⟨text, modified⟩, hnames, ?_⟩
  constructor
  case wellFormed => exact hwell
  case root => exact hroot
  case reads => exact hread
  case versions => simp [History.start, hmodified, Edition.version]
  case ordered => exact List.pairwise_singleton _ _
  case nanos => simpa using hnanos modified hmodified
  case parent => exact henters.locate_directory habsolute hnames
  case unmoved => exact fun _ => hresolve
  case moved => exact fun hne => absurd rfl hne

theorem Chronicle.perform (hnames : (PathText.below guard.root id).names = above ++ [name])
    (chronicle : Chronicle hash guard id above name directory history current older)
    {request : SaveRequest} (hclock : request.now.nanos < Timestamp.nanosPerSecond) :
    ∃ current' older', Chronicle hash guard id above name directory
      (history.perform hash guard id request) current' older' := by
  have hupdated : Updated hash guard request.now history.disk id request.text request.expected
      request.writePatch current.text current.modified ((save hash guard request.now id request.text
        request.expected request.writePatch).run.run history.disk) :=
    updated_save hash request.now request.text request.expected request.writePatch
      chronicle.wellFormed chronicle.root chronicle.reads
  unfold History.perform
  generalize (save hash guard request.now id request.text request.expected
    request.writePatch).run.run history.disk = saved at hupdated
  cases hupdated with
  | refused fault hresolve => exact ⟨current, older, chronicle⟩
  | stale hresolve hrevision => exact ⟨current, older, chronicle⟩
  | crowded fault hresolve hroom => exact ⟨current, older, chronicle⟩
  | stored above' name' directory' after hresolve hrevision hstored =>
      obtain ⟨rfl, hname⟩ := List.append_inj' (hstored.names.symm.trans hnames) rfl
      obtain rfl : name' = name := by simpa using hname
      obtain rfl : directory' = directory := by
        rcases hstored.origin with hlocate | ⟨-, hmissing⟩
        · exact Except.ok.inj (hlocate.symm.trans chronicle.parent)
        · exact absurd chronicle.parent (hmissing directory)
      refine ⟨⟨request.text, Timestamp.following (some current.modified) request.now⟩,
        current :: older, ?_⟩
      have hlater := Timestamp.lt_following current.modified request.now
      constructor
      case wellFormed => exact hstored.wellFormed
      case root => exact hstored.directories _ chronicle.root
      case reads => exact hstored.readText
      case versions =>
        simp [modifiedAt_of_readText hstored.readText, Edition.version, chronicle.versions]
      case ordered =>
        refine List.pairwise_cons.mpr ⟨?_, chronicle.ordered⟩
        intro edition hedition
        rcases List.mem_cons.mp hedition with rfl | hold
        · exact hlater
        · exact Timestamp.lt_trans (List.rel_of_pairwise_cons chronicle.ordered hold) hlater
      case nanos =>
        intro edition hedition
        rcases List.mem_cons.mp hedition with rfl | hold
        · exact Timestamp.nanos_following_lt (some current.modified) hclock
        · exact chronicle.nanos edition hold
      case parent => exact hstored.parent
      case unmoved => exact fun hnil => by simp at hnil
      case moved => exact fun _ => hstored.leads

theorem Chronicle.run (hnames : (PathText.below guard.root id).names = above ++ [name])
    {requests : List SaveRequest}
    (hclock : ∀ request ∈ requests, request.now.nanos < Timestamp.nanosPerSecond)
    (chronicle : Chronicle hash guard id above name directory history current older) :
    ∃ current' older', Chronicle hash guard id above name directory
      (history.run hash guard id requests) current' older' := by
  induction requests generalizing history current older with
  | nil => exact ⟨current, older, chronicle⟩
  | cons request requests ih =>
      obtain ⟨hfirst, hrest⟩ := List.forall_mem_cons.mp hclock
      obtain ⟨current', older', hnext⟩ := chronicle.perform hnames hfirst
      exact ih hrest hnext

/-! ## What a chronicle says -/

theorem Chronicle.endsOutside_iff (hnames : (PathText.below guard.root id).names = above ++ [name])
    (chronicle : Chronicle hash guard id above name directory history current older) :
    EndsOutside guard history.disk id ↔ ¬ guard.root <+: directory := by
  have hparent := PathText.parent?_of_names (PathText.isAbsolute_below guard.root id) hnames
  constructor
  · rintro ⟨parent, found, hsome, hfound, houtside⟩
    obtain rfl : PathText.ofNames true above = parent := Option.some.inj (hparent.symm.trans hsome)
    obtain rfl : directory = found := Except.ok.inj (chronicle.parent.symm.trans hfound)
    exact houtside
  · intro houtside
    exact ⟨_, directory, hparent, chronicle.parent, houtside⟩

theorem Chronicle.revisions_nodup
    (chronicle : Chronicle hash guard id above name directory history current older) :
    (history.versions.map Version.revision).Nodup := by
  rw [chronicle.versions, List.map_map]
  refine List.pairwise_map.mpr (chronicle.ordered.imp ?_)
  intro later earlier hearlier hsame
  exact Timestamp.ne_of_lt hearlier (eq_of_revisionFor_eq hsame).1.symm

theorem Chronicle.latest_ne
    (chronicle : Chronicle hash guard id above name directory history current older)
    {expected : Revision}
    (hexpected : expected ∈ (older.map (Edition.version hash)).map Version.revision) :
    revisionFor hash current.text current.modified ≠ expected := by
  have hnodup := chronicle.revisions_nodup
  rw [chronicle.versions] at hnodup
  rintro rfl
  exact (List.nodup_cons.mp hnodup).1 hexpected

theorem Chronicle.resolve_inside (hsafe : RootGuard.isLexicallySafe id)
    (chronicle : Chronicle hash guard id above name directory history current older)
    (hinside : guard.root <+: directory) :
    guard.resolve history.disk.tree id = .ok (.below guard.root id) := by
  by_cases hfirst : older = []
  · exact chronicle.unmoved hfirst
  · exact RootGuard.resolve_of_inside hsafe (chronicle.moved hfirst)
      (hinside.trans (List.prefix_append _ _))

theorem Chronicle.resolve_outside
    (chronicle : Chronicle hash guard id above name directory history current older)
    (hsaved : older ≠ []) (houtside : ¬ guard.root <+: directory) :
    guard.resolve history.disk.tree id = .error (.invalidDocumentId id) := by
  refine RootGuard.resolve_of_outside (chronicle.moved hsaved) fun hinside => ?_
  rcases List.prefix_concat_iff.mp hinside with hself | hinside
  · obtain ⟨place, content, hlocate, hheld⟩ :=
      inv_readText (PathText.isAbsolute_below guard.root id) chronicle.reads
    rw [chronicle.moved hsaved] at hlocate
    cases hlocate
    have hroot := chronicle.root
    rw [hself, isDirectory_iff, hheld] at hroot
    cases hroot
  · exact houtside hinside

theorem Chronicle.save_stale {expected : Revision} (now : Timestamp) (text : String)
    (writePatch : PatchWriter)
    (chronicle : Chronicle hash guard id above name directory history current older)
    (hresolve : guard.resolve history.disk.tree id = .ok (.below guard.root id))
    (hstale : revisionFor hash current.text current.modified ≠ expected) :
    (save hash guard now id text expected writePatch).outcome history.disk =
      (.error (.revisionConflict (revisionFor hash current.text current.modified)),
        history.disk) := by
  rw [outcome_save, hresolve]
  simp only [chronicle.reads, if_neg hstale]

theorem Chronicle.save_outside (now : Timestamp) (text : String) (expected : Revision)
    (writePatch : PatchWriter)
    (chronicle : Chronicle hash guard id above name directory history current older)
    (hsaved : older ≠ []) (houtside : ¬ guard.root <+: directory) :
    (save hash guard now id text expected writePatch).outcome history.disk =
      (.error (.invalidDocumentId id), history.disk) := by
  rw [outcome_save, chronicle.resolve_outside hsaved houtside]

theorem Chronicle.save_latest (now : Timestamp) (text : String) (writePatch : PatchWriter)
    (chronicle : Chronicle hash guard id above name directory history current older)
    (hresolve : guard.resolve history.disk.tree id = .ok (.below guard.root id)) :
    ((save hash guard now id text (revisionFor hash current.text current.modified)
      writePatch).outcome history.disk).1.isOk ↔ Disk.HasRoom (.below guard.root id) := by
  have hupdated := updated_save hash now text (revisionFor hash current.text current.modified)
    writePatch chronicle.wellFormed chronicle.root chronicle.reads
  generalize (save hash guard now id text (revisionFor hash current.text current.modified)
    writePatch).outcome history.disk = saved at hupdated
  cases hupdated with
  | refused fault hrefused => simp [hresolve] at hrefused
  | stale _ hrevision => exact absurd rfl hrevision
  | crowded fault _ hroom => exact iff_of_false (by simp [Except.isOk, Except.toBool]) hroom
  | stored above name directory after _ _ hstored => exact iff_of_true rfl hstored.room

/--
Over every run of saves, whatever the clock reads, each version of a document is dated later
than the one before it and has a revision of its own.  A save that goes by an old revision
leaves the disk as it is and fails with the latest one as a conflict, and one that goes by
the latest succeeds if there is room beside the document.  Only a document whose path leads
out of the root up to its last name is saved at most once, and is refused as no document of
the store from then on.
-/
theorem no_revision_is_issued_twice {snapshot : Snapshot} {requests : List SaveRequest}
    (hwell : disk.tree.WellFormed) (hroot : disk.tree.isDirectory guard.root)
    (hload : ((load hash guard id).run.run disk).1 = .ok snapshot)
    (hnanos : ∀ modified, modifiedAt guard id disk = some modified →
      modified.nanos < Timestamp.nanosPerSecond)
    (hclock : ∀ request ∈ requests, request.now.nanos < Timestamp.nanosPerSecond) :
    let history := (History.start guard id disk snapshot).run hash guard id requests
    ∃ (latest : Version) (older : List Version) (times : List Timestamp),
      history.versions = latest :: older ∧
      history.versions.map Version.modified = times.map some ∧
      times.Pairwise (fun later earlier => earlier < later) ∧
      (∀ time ∈ times, time.nanos < Timestamp.nanosPerSecond) ∧
      (history.versions.map Version.revision).Nodup ∧
      ∀ now text writePatch,
        (∀ expected ∈ older.map Version.revision,
          let saved := (save hash guard now id text expected writePatch).run.run history.disk
          (¬ EndsOutside guard disk id →
            saved = (.error (.revisionConflict latest.revision), history.disk)) ∧
          (EndsOutside guard disk id →
            saved = (.error (.invalidDocumentId id), history.disk))) ∧
        (¬ EndsOutside guard disk id ∨ older = [] →
          (((save hash guard now id text latest.revision writePatch).run.run
            history.disk).1.isOk ↔ Disk.HasRoom (.below guard.root id))) := by
  obtain ⟨text, revision⟩ := snapshot
  intro history
  obtain ⟨hresolve, -⟩ := basis_of_load hload
  have hsafe := (RootGuard.eq_of_resolve hresolve).1
  obtain ⟨above, name, directory, first, hnames, hstart⟩ :=
    exists_chronicle_of_load hwell hroot hload hnanos
  have houtside : EndsOutside guard disk id ↔ ¬ guard.root <+: directory :=
    hstart.endsOutside_iff hnames
  obtain ⟨current, older, chronicle⟩ := hstart.run hnames hclock
  have hversions : history.versions =
      current.version hash :: older.map (Edition.version hash) := chronicle.versions
  refine ⟨current.version hash, older.map (Edition.version hash),
    (current :: older).map Edition.modified, hversions, ?_, ?_, ?_, chronicle.revisions_nodup, ?_⟩
  · simp [hversions, Edition.version, Function.comp_def]
  · exact List.pairwise_map.mpr chronicle.ordered
  · intro time htime
    obtain ⟨edition, hedition, rfl⟩ := List.mem_map.mp htime
    exact chronicle.nanos edition hedition
  · intro now text writePatch
    rw [houtside, not_not]
    refine ⟨?_, ?_⟩
    · intro expected hexpected
      have hsaved : older ≠ [] := by
        rintro rfl
        simp at hexpected
      refine ⟨fun hinside => ?_, fun hnot => ?_⟩
      · exact chronicle.save_stale now text writePatch (chronicle.resolve_inside hsafe hinside)
          (chronicle.latest_ne hexpected)
      · exact chronicle.save_outside now text expected writePatch hsaved hnot
    · intro hopen
      refine chronicle.save_latest now text writePatch ?_
      rcases hopen with hinside | hfirst
      · exact chronicle.resolve_inside hsafe hinside
      · exact chronicle.unmoved (by simpa using hfirst)

def lateInSecond : Disk :=
  { tree := ⟨[(["root"], .directory),
      (["root", "doc.md"], .file "a".toUTF8 ⟨2000000001, 999999999⟩)]⟩ }

theorem walk_lateInSecond :
    lateInSecond.tree.walk mostLinks [] ["root"] = .ok ["root"] ∧
      lateInSecond.tree.walk mostLinks [] ["root", "doc.md"] = .ok ["root", "doc.md"] := by
  constructor <;> simp +decide [walk, mostLinks, lateInSecond, get?, List.lookup_cons]

theorem locate_lateInSecond :
    lateInSecond.tree.locate [] (.below ["root"] "doc.md") = .ok ["root", "doc.md"] := by
  have hpath : PathText.below ["root"] "doc.md" = .ofNames true ["root", "doc.md"] := by decide
  rw [hpath, locate_ofNames _ _ (by decide), walk_lateInSecond.2]
  rfl

theorem load_lateInSecond :
    (load (fun _ => 0) ⟨["root"]⟩ "doc.md").run.run lateInSecond =
      (.ok ⟨"a", revisionFor (fun _ => 0) "a" ⟨2000000001, 999999999⟩⟩, lateInSecond) :=
  load_of_locate (by decide) locate_lateInSecond (List.prefix_append _ _) rfl

theorem versions_of_late_document :
    let first := revisionFor (fun _ => 0) "a" ⟨2000000001, 999999999⟩
    let requests : List SaveRequest := [⟨⟨0, 0⟩, "b", first, fun _ _ => ""⟩,
      ⟨⟨0, 0⟩, "a", revisionFor (fun _ => 0) "b" ⟨2000000002, 0⟩, fun _ _ => ""⟩]
    let history := (History.start ⟨["root"]⟩ "doc.md" lateInSecond ⟨"a", first⟩).run (fun _ => 0)
      ⟨["root"]⟩ "doc.md" requests
    lateInSecond.tree.WellFormed ∧ lateInSecond.tree.isDirectory ["root"] ∧
      (∀ modified, modifiedAt ⟨["root"]⟩ "doc.md" lateInSecond = some modified →
        modified.nanos < Timestamp.nanosPerSecond) ∧
      (∀ request ∈ requests, request.now.nanos < Timestamp.nanosPerSecond) ∧
      ∃ (latest : Version) (older : List Version), history.versions = latest :: older ∧
        (history.versions.map Version.revision).Nodup ∧
        ∀ now text writePatch, ∀ expected ∈ older.map Version.revision,
          (save (fun _ => 0) ⟨["root"]⟩ now "doc.md" text expected writePatch).run.run
            history.disk = (.error (.revisionConflict latest.revision), history.disk) := by
  intro first requests history
  have hwell : lateInSecond.tree.WellFormed := wellFormed_of_items (by decide)
  have hnanos : ∀ modified, modifiedAt ⟨["root"]⟩ "doc.md" lateInSecond = some modified →
      modified.nanos < Timestamp.nanosPerSecond := by
    have hread : readText lateInSecond (.below ["root"] "doc.md") =
        .ok (some ("a", ⟨2000000001, 999999999⟩)) :=
      readText_of_locate (PathText.isAbsolute_below ["root"] "doc.md") locate_lateInSecond rfl
    rw [modifiedAt_of_readText hread]
    rintro modified ⟨⟩
    decide
  have hclock : ∀ request ∈ requests, request.now.nanos < Timestamp.nanosPerSecond := by
    simp [requests, Timestamp.nanosPerSecond]
  have hinside : ¬ EndsOutside ⟨["root"]⟩ lateInSecond "doc.md" := by
    rintro ⟨parent, directory, hparent, hlocate, houtside⟩
    obtain rfl : PathText.ofNames true ["root"] = parent :=
      Option.some.inj (Eq.trans (by decide) hparent)
    rw [locate_ofNames _ _ (by decide), walk_lateInSecond.1] at hlocate
    cases hlocate
    exact houtside List.prefix_rfl
  refine ⟨hwell, by decide, hnanos, hclock, ?_⟩
  obtain ⟨latest, older, -, hversions, -, -, -, hnodup, hsaves⟩ :=
    no_revision_is_issued_twice hwell (by decide) (congrArg Prod.fst load_lateInSecond) hnanos
      hclock
  exact ⟨latest, older, hversions, hnodup, fun now text writePatch expected hexpected =>
    ((hsaves now text writePatch).1 expected hexpected).1 hinside⟩

/--
A document that is reached out of the root and back is saved under its first revision.  The
save of another text under the same revision then meets no conflict: the document is not
found to be one of the store.
-/
theorem stale_save_after_detour_is_refused :
    let first := revisionFor (fun _ => 0) "a" ⟨2000000001, 0⟩
    ∃ commit after,
      (load (fun _ => 0) ⟨["root"]⟩ "link/doc.md").run.run outAndBack =
        (.ok ⟨"a", first⟩, outAndBack) ∧
      (save (fun _ => 0) ⟨["root"]⟩ ⟨0, 0⟩ "link/doc.md" "b" first fun _ _ => "").run.run
        outAndBack = (.ok commit, after) ∧
      commit.revision ≠ first ∧
      (save (fun _ => 0) ⟨["root"]⟩ ⟨0, 0⟩ "link/doc.md" "c" first fun _ _ => "").run.run
        after = (.error (.invalidDocumentId "link/doc.md"), after) := by
  intro first
  have hcommits := detour_outAndBack.commits
  have hnames : (PathText.below ["root"] "link/doc.md").names = ["root", "link"] ++ ["doc.md"] := by
    decide
  have hupdated : Updated (fun _ => 0) ⟨["root"]⟩ ⟨0, 0⟩ outAndBack "link/doc.md" "b" first
      (fun _ _ => "") "a" ⟨2000000001, 0⟩ ((save (fun _ => 0) ⟨["root"]⟩ ⟨0, 0⟩ "link/doc.md" "b"
        first fun _ _ => "").run.run outAndBack) :=
    updated_save (fun _ => 0) ⟨0, 0⟩ "b" first (fun _ _ => "") wellFormed_outAndBack (by decide)
      readText_outAndBack
  generalize (save (fun _ => 0) ⟨["root"]⟩ ⟨0, 0⟩ "link/doc.md" "b" first
    fun _ _ => "").run.run outAndBack = saved at hupdated
  cases hupdated with
  | refused fault hresolve => simp [hcommits.1] at hresolve
  | stale _ hrevision => exact absurd rfl hrevision
  | crowded fault _ hroom => exact absurd detour_outAndBack.room hroom
  | stored above name directory after _ _ hstored =>
      obtain ⟨rfl, hname⟩ := List.append_inj' (hstored.names.symm.trans hnames) rfl
      obtain rfl : name = "doc.md" := by simpa using hname
      obtain rfl : directory = ["out"] := by
        rcases hstored.origin with hlocate | ⟨hinside, hmissing⟩
        · exact Except.ok.inj (hlocate.symm.trans locate_outAndBack.2)
        · exact absurd locate_outAndBack.2 (hmissing ["out"])
      have hrefused : RootGuard.resolve ⟨["root"]⟩ after.tree "link/doc.md" =
          .error (.invalidDocumentId "link/doc.md") :=
        RootGuard.resolve_of_outside hstored.leads (by decide)
      refine ⟨_, after, ?_, rfl, ?_, ?_⟩
      · exact load_of_locate (by decide) locate_outAndBack.1 (List.prefix_append _ _) rfl
      · intro hsame
        exact Timestamp.ne_of_lt (Timestamp.lt_following ⟨2000000001, 0⟩ ⟨0, 0⟩)
          (eq_of_revisionFor_eq hsame).1.symm
      · change (save (fun _ => 0) ⟨["root"]⟩ ⟨0, 0⟩ "link/doc.md" "c" first
          fun _ _ => "").outcome after = _
        rw [outcome_save, hrefused]

end Sections.Folder
