import Sections.Proofs.Store.Folder
import Sections.Proofs.Store.RootGuard

/-!
# Where a save makes changes

The guard looks at the place that the path of a document leads to, and a save changes the directory
that the path names.  These differ where a link leads out of the root and another one leads back.
-/

namespace Sections.Folder

open ExceptT FileTree

/--
What it means that the path of a document leads out of the root and back: the document is
a text inside the root at the expected revision, and the directory of its path is outside and
can hold a temporary file.
-/
structure Detour (hash : TextHash) (guard : RootGuard) (disk : Disk) (id : String)
    (expected : Revision) : Prop where
  safe : RootGuard.isLexicallySafe id
  inside : ∃ place, disk.tree.locate [] (.below guard.root id) = .ok place ∧ guard.root <+: place
  current : ∃ text modified, readText disk (.below guard.root id) = .ok (some (text, modified)) ∧
    revisionFor hash text modified = expected
  outside : ∃ parent directory, (PathText.below guard.root id).parent? = some parent ∧
    disk.tree.locate [] parent = .ok directory ∧ ¬ guard.root <+: directory
  room : Disk.HasRoom (.below guard.root id)

variable {hash : TextHash} {guard : RootGuard} {id : String} {expected : Revision} {disk : Disk}

theorem Detour.commits (hdetour : Detour hash guard disk id expected) :
    Commits hash guard disk id expected (.below guard.root id) := by
  obtain ⟨place, hlocate, hinside⟩ := hdetour.inside
  exact ⟨RootGuard.resolve_of_inside hdetour.safe hlocate hinside, .inr hdetour.current⟩

theorem readText_ne_none {path : PathText} {place : Place} (hwell : disk.tree.WellFormed)
    (habsolute : path.isAbsolute) (hlocate : disk.tree.locate [] path = .ok place) :
    readText disk path ≠ .ok none := by
  obtain ⟨item, hitem, hlink⟩ := hwell.exists_of_locate habsolute hlocate
  rw [← locate_of_isAbsolute disk.tree disk.workingDirectory habsolute] at hlocate
  have hread := read_of_locate hlocate
  rw [hitem] at hread
  cases item with
  | link target => exact absurd rfl (hlink target)
  | directory => simp [readText, hread, FileFault.isNotFound]
  | file content modified => cases hdecode : decodeUtf8 content <;> simp [readText, hread, hdecode]

theorem names_ne_up {path : PathText} (hwell : disk.tree.WellFormed)
    (hroot : disk.tree.isDirectory guard.root)
    (hresolve : guard.resolve disk.tree id = .ok path) : ∀ name ∈ path.names, name ≠ ".." := by
  obtain ⟨hsafe, rfl⟩ := RootGuard.eq_of_resolve hresolve
  have hnames := hwell.isName hroot
  rw [PathText.names_below fun name hname => (hnames name hname).1]
  intro name hname
  rcases List.mem_append.mp hname with hmem | hmem
  · exact (hnames name hmem).2
  · rintro rfl
    simp [RootGuard.isLexicallySafe, PathText.leadsUp, hmem] at hsafe

theorem confined_iff_of_there {above : List String} {name : String} {place : Place}
    (hwell : disk.tree.WellFormed)
    (hcommits : Commits hash guard disk id expected (.below guard.root id))
    (hnames : (PathText.below guard.root id).names = above ++ [name])
    (hlocate : disk.tree.locate [] (.below guard.root id) = .ok place) (content : ByteArray)
    (modified : Timestamp) :
    ∃ made, ((Disk.writeFile (.below guard.root id) content modified).outcome disk).2 =
        disk.allChanged made ∧
      FileEffect.AllConfined [] disk.tree made ∧
      (FileEffect.AllConfined guard.root disk.tree made ↔
        ¬ Detour hash guard disk id expected) := by
  have habsolute := PathText.isAbsolute_below guard.root id
  have hparent := PathText.parent?_of_names habsolute hnames
  obtain ⟨directory, habove, hdirectory⟩ := locate_front habsolute hnames hlocate
  by_cases hroom : Disk.HasRoom (.below guard.root id)
  case neg =>
    obtain ⟨fault, hreplace⟩ :=
      Disk.outcome_replaceFile_of_not_hasRoom hroom directory content modified
    have hwrite := (Disk.outcome_writeFile_of_directory habsolute hnames habove
      (hdirectory (by simp)) content modified).trans hreplace
    exact ⟨[], congrArg Prod.snd hwrite, trivial, fun _ hdetour => hroom hdetour.room,
      fun _ => trivial⟩
  obtain ⟨result, temporary, last, hwrite, hconfined⟩ := Disk.confined_writeFile_of_directory hwell
    habsolute hnames habove (hdirectory (by simp)) hroom content modified
  refine ⟨_, by rw [hwrite], hconfined.mono List.nil_prefix, ?_, ?_⟩
  · rintro hinside ⟨-, -, -, ⟨parent, outside, hsome, hleads, hnot⟩, -⟩
    obtain rfl : outside = directory := by
      rw [hparent] at hsome
      cases hsome
      exact Except.ok.inj (hleads.symm.trans habove)
    obtain ⟨found, other, hentry, hbelow, -⟩ := hinside.1 _ List.mem_cons_self
    rw [(List.append_inj' hentry rfl).1] at hnot
    exact hnot hbelow
  · intro hdirect
    have hinside : guard.root <+: directory := by
      by_contra hnot
      refine hdirect ⟨(RootGuard.eq_of_resolve hcommits.1).1, ⟨place, hlocate, ?_⟩, ?_,
        ⟨_, directory, hparent, habove, hnot⟩, hroom⟩
      · refine RootGuard.inside_of_resolve hcommits.1 ?_
        simp [PathText.ancestors, hlocate, Except.toOption]
      · exact hcommits.2.resolve_left (readText_ne_none hwell habsolute hlocate)
    exact hconfined.mono hinside

theorem confined_of_missing {above : List String} {name : String} (hwell : disk.tree.WellFormed)
    (hroot : disk.tree.isDirectory guard.root)
    (hresolve : guard.resolve disk.tree id = .ok (.below guard.root id))
    (hnames : (PathText.below guard.root id).names = above ++ [name])
    (hmissing : ∀ place, disk.tree.locate [] (.below guard.root id) ≠ .ok place)
    (content : ByteArray) (modified : Timestamp) :
    ∃ made, ((Disk.writeFile (.below guard.root id) content modified).outcome disk).2 =
        disk.allChanged made ∧
      FileEffect.AllConfined guard.root disk.tree made := by
  have hup := names_ne_up hwell hroot hresolve
  obtain ⟨front, missing, base, rfl, hnear, hinside⟩ :=
    RootGuard.nearest_of_resolve hresolve hmissing hnames
  obtain ⟨result, made, hwrite, hconfined⟩ := Disk.confined_writeFile_of_nearest hwell
    (PathText.isAbsolute_below guard.root id) hnames
    (fun piece hpiece => hup piece (by simp [hnames, hpiece])) hnear content modified
  exact ⟨made, by rw [hwrite], hconfined.mono hinside⟩

/--
A save touches entries of real directories only, and these are inside the root exactly if
the path of the document does not lead out of it and back.
-/
theorem save_confined_iff (now : Timestamp) (text : String) (writePatch : PatchWriter)
    (hwell : disk.tree.WellFormed) (hroot : disk.tree.isDirectory guard.root) :
    ∃ made, ((save hash guard now id text expected writePatch).run.run disk).2 =
        disk.allChanged made ∧
      FileEffect.AllConfined [] disk.tree made ∧
      (FileEffect.AllConfined guard.root disk.tree made ↔
        ¬ Detour hash guard disk id expected) := by
  by_cases hcommits : ∃ path, Commits hash guard disk id expected path
  case neg =>
    have hrefused := not_exists.mp hcommits
    have hdirect : ¬ Detour hash guard disk id expected := fun hdetour =>
      hrefused _ hdetour.commits
    exact ⟨[], outcome_save_of_not_commits now text writePatch hrefused, trivial,
      fun _ => hdirect, fun _ => trivial⟩
  obtain ⟨path, hcommits⟩ := hcommits
  obtain ⟨-, rfl⟩ := RootGuard.eq_of_resolve hcommits.1
  obtain ⟨previous, hsave⟩ := outcome_save_of_commits now text writePatch hcommits
  change ∃ made, ((save hash guard now id text expected writePatch).outcome disk).2 = _ ∧ _
  rw [hsave]
  rcases List.eq_nil_or_concat (PathText.below guard.root id).names with
    hnil | ⟨above, name, hnames⟩
  · have hparent : (PathText.below guard.root id).parent? = none := by
      simp [PathText.parent?, hnil]
    have hdirect : ¬ Detour hash guard disk id expected := by
      rintro ⟨-, -, -, ⟨parent, directory, hsome, -⟩, -⟩
      simp [hparent] at hsome
    refine ⟨[], ?_, trivial, fun _ => hdirect, fun _ => trivial⟩
    simp [Disk.writeFile, hparent, Disk.allChanged]
  · rw [List.concat_eq_append] at hnames
    by_cases hthere : ∃ place, disk.tree.locate [] (.below guard.root id) = .ok place
    · obtain ⟨place, hlocate⟩ := hthere
      exact confined_iff_of_there hwell hcommits hnames hlocate _ _
    · obtain ⟨made, hmade, hconfined⟩ := confined_of_missing hwell hroot hcommits.1 hnames
        (not_exists.mp hthere) text.toUTF8 (Timestamp.following previous now)
      have hdirect : ¬ Detour hash guard disk id expected := by
        rintro ⟨-, ⟨place, hlocate, -⟩, -, -, -⟩
        exact hthere ⟨place, hlocate⟩
      exact ⟨made, hmade, hconfined.mono List.nil_prefix, fun _ => hdirect, fun _ => hconfined⟩

def outAndBack : Disk :=
  { tree := ⟨[(["root"], .directory), (["root", "real.md"], .file "a".toUTF8 ⟨2000000001, 0⟩),
      (["root", "link"], .link ⟨"../out"⟩), (["out"], .directory),
      (["out", "doc.md"], .link ⟨"/root/real.md"⟩)]⟩ }

theorem wellFormed_outAndBack : outAndBack.tree.WellFormed :=
  wellFormed_of_items (by decide)

theorem walk_outAndBack :
    outAndBack.tree.walk mostLinks [] ["root", "link"] = .ok ["out"] ∧
      outAndBack.tree.walk mostLinks [] ["root", "link", "doc.md"] = .ok ["root", "real.md"] ∧
      outAndBack.tree.walk mostLinks [] ["root", "new.md"] = .error .notFound := by
  have hout : (PathText.mk "../out").isAbsolute = false ∧
      (PathText.mk "../out").steps = ["..", "out"] := by decide
  have hback : (PathText.mk "/root/real.md").isAbsolute = true ∧
      (PathText.mk "/root/real.md").steps = ["root", "real.md"] := by decide
  refine ⟨?_, ?_, ?_⟩ <;>
    simp +decide [walk, mostLinks, outAndBack, get?, List.lookup_cons, hout, hback]

theorem locate_outAndBack :
    outAndBack.tree.locate [] (.below ["root"] "link/doc.md") = .ok ["root", "real.md"] ∧
      outAndBack.tree.locate [] (.ofNames true ["root", "link"]) = .ok ["out"] := by
  obtain ⟨hdirectory, hdocument, -⟩ := walk_outAndBack
  have hpath : PathText.below ["root"] "link/doc.md" =
      .ofNames true ["root", "link", "doc.md"] := by decide
  constructor
  · rw [hpath, locate_ofNames _ _ (by decide), hdocument]
    rfl
  · rw [locate_ofNames _ _ (by decide), hdirectory]
    rfl

theorem readText_outAndBack :
    readText outAndBack (.below ["root"] "link/doc.md") = .ok (some ("a", ⟨2000000001, 0⟩)) :=
  readText_of_locate (PathText.isAbsolute_below ["root"] "link/doc.md") locate_outAndBack.1 rfl

theorem detour_outAndBack :
    Detour (fun _ => 0) ⟨["root"]⟩ outAndBack "link/doc.md"
      (revisionFor (fun _ => 0) "a" ⟨2000000001, 0⟩) := by
  constructor
  case safe => decide
  case inside => exact ⟨["root", "real.md"], locate_outAndBack.1, by decide⟩
  case current => exact ⟨"a", ⟨2000000001, 0⟩, readText_outAndBack, rfl⟩
  case outside =>
    exact ⟨.ofNames true ["root", "link"], ["out"], by decide, locate_outAndBack.2, by decide⟩
  case room => decide

/-- The document is taken for one inside the root, and a file is made beside the root. -/
theorem save_escapes_through_detour :
    ∃ made, ((save (fun _ => 0) ⟨["root"]⟩ ⟨2000000002, 0⟩ "link/doc.md" "b"
        (revisionFor (fun _ => 0) "a" ⟨2000000001, 0⟩) fun _ _ => "").run.run outAndBack).2 =
        outAndBack.allChanged made ∧
      ¬ FileEffect.AllConfined ["root"] outAndBack.tree made := by
  have hcommits := detour_outAndBack.commits
  obtain ⟨place, hlocate, -⟩ := detour_outAndBack.inside
  obtain ⟨previous, hsave⟩ := outcome_save_of_commits ⟨2000000002, 0⟩ "b" (fun _ _ => "") hcommits
  have hnames : (PathText.below ["root"] "link/doc.md").names = ["root", "link"] ++ ["doc.md"] := by
    decide
  obtain ⟨made, hmade, -, hinside⟩ := confined_iff_of_there wellFormed_outAndBack hcommits hnames
    hlocate "b".toUTF8 (Timestamp.following previous ⟨2000000002, 0⟩)
  exact ⟨made, hsave.trans hmade, fun hconfined => hinside.mp hconfined detour_outAndBack⟩

theorem save_of_new_document_confined :
    outAndBack.tree.WellFormed ∧ outAndBack.tree.isDirectory ["root"] ∧
      ∃ made, ((save (fun _ => 0) ⟨["root"]⟩ ⟨2000000002, 0⟩ "new.md" "b" ⟨""⟩
          fun _ _ => "").run.run outAndBack).2 = outAndBack.allChanged made ∧
        FileEffect.AllConfined ["root"] outAndBack.tree made := by
  have hdirect : ¬ Detour (fun _ => 0) ⟨["root"]⟩ outAndBack "new.md" ⟨""⟩ := by
    rintro ⟨-, ⟨place, hlocate, -⟩, -, -, -⟩
    have hpath : PathText.below ["root"] "new.md" = .ofNames true ["root", "new.md"] := by decide
    rw [hpath, locate_ofNames _ _ (by decide), walk_outAndBack.2.2] at hlocate
    cases hlocate
  obtain ⟨made, hmade, -, hinside⟩ := save_confined_iff ⟨2000000002, 0⟩ "b" (fun _ _ => "")
    wellFormed_outAndBack (by decide : outAndBack.tree.isDirectory ["root"])
  exact ⟨wellFormed_outAndBack, by decide, made, hmade, hinside.mpr hdirect⟩

end Sections.Folder
