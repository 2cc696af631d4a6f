import Sections.Proofs.Store.RootGuard
import Sections.Store.Folder

/-!
# Ids of documents and their paths

The id of a file is made of the names from the root on.  The guard takes it back to the path of that
file.  Ids with dots or empty pieces are accepted too, and the path of one has the id without them.
-/

namespace Sections

namespace RootGuard

open FileTree

variable {guard : RootGuard} {tree : FileTree} {place other : Place} {names : List String}

/-! ## The id of a path -/

theorem idFor_of_names {path : PathText} (habsolute : path.isAbsolute)
    (hnames : path.names = guard.root ++ names) (hup : ".." ∉ names) :
    guard.idFor path = some ("/".intercalate names) := by
  simp [idFor, habsolute, hnames, hup]

theorem idFor_of_resolve {id : String} {path : PathText}
    (hroot : ∀ name ∈ guard.root, PathText.IsName name)
    (hresolve : guard.resolve tree id = .ok path) :
    guard.idFor path = some ("/".intercalate (PathText.mk id).names) := by
  obtain ⟨hsafe, rfl⟩ := eq_of_resolve hresolve
  refine idFor_of_names (PathText.isAbsolute_below _ _) (PathText.names_below hroot id) ?_
  intro hup
  simp [isLexicallySafe, PathText.leadsUp, hup] at hsafe

/-! ## The path of an id -/

theorem isLexicallySafe_joined (hnames : ∀ name ∈ names, PathText.IsName name ∧ name ≠ "..")
    (hne : names ≠ []) : isLexicallySafe ("/".intercalate names) := by
  have hisName : ∀ name ∈ names, PathText.IsName name := fun name hname => (hnames name hname).1
  have hjoined := PathText.names_joined hisName
  have hnonempty : "/".intercalate names ≠ "" := by
    intro hempty
    rw [hempty] at hjoined
    exact hne (hjoined.symm.trans (by decide))
  have hup : ".." ∉ names := fun hmem => (hnames ".." hmem).2 rfl
  simp [isLexicallySafe, hnonempty, PathText.isAbsolute_joined hisName, PathText.leadsUp, hjoined,
    hup]

theorem exists_first_inside (hplace : ∀ name ∈ place, PathText.IsName name ∧ name ≠ "..")
    (hlinks : ∀ stem, stem <+: place → ∀ target, tree.get? stem ≠ some (.link target))
    (hbelow : guard.root <+: place)
    (hfound : tree.locate [] (.ofPlace guard.root) = .ok guard.root) :
    ∃ reached, (PathText.ofPlace place).ancestors.findSome?
        (fun ancestor => (tree.locate [] ancestor).toOption) = some reached ∧
      guard.root <+: reached := by
  let answer (count : Nat) : Option Place :=
    (tree.locate [] (.ofPlace (place.take count))).toOption
  have hroot : answer guard.root.length = some guard.root := by
    simp only [answer, ← List.prefix_iff_eq_take.mp hbelow, hfound]
    rfl
  have hanswer {count : Nat} {reached : Place} (hlocate : answer count = some reached) :
      reached = place.take count := by
    have hfront := List.take_prefix count place
    exact eq_of_locate_ofNames (fun name hname => hplace name (hfront.mem hname))
      (fun stem hstem => hlinks stem (hstem.trans hfront)) (inv_toOption_some hlocate)
  have hlength := hbelow.length_le
  rw [PathText.ancestors_ofPlace fun name hname => (hplace name hname).1, List.findSome?_map]
  change ∃ reached, (List.range (place.length + 1)).reverse.findSome? answer = some reached ∧ _
  obtain ⟨reached, hfirst⟩ : ∃ reached,
      (List.range (place.length + 1)).reverse.findSome? answer = some reached := by
    rw [← Option.isSome_iff_exists, List.findSome?_isSome_iff]
    exact ⟨guard.root.length, by simp; omega, by simp [hroot]⟩
  obtain ⟨count, -, hlocate, hlater⟩ := findSome?_reverse_range hfirst
  have hlong : guard.root.length ≤ count := by
    by_contra hshort
    have hnone := hlater guard.root.length (by omega) (by omega)
    rw [hroot] at hnone
    cases hnone
  refine ⟨reached, hfirst, ?_⟩
  rw [hanswer hlocate, List.prefix_take_iff]
  exact ⟨hbelow, hlong⟩

theorem resolve_joined (hplace : ∀ name ∈ guard.root ++ names, PathText.IsName name ∧ name ≠ "..")
    (hlinks : ∀ stem, stem <+: guard.root ++ names →
      ∀ target, tree.get? stem ≠ some (.link target))
    (hfound : tree.locate [] (.ofPlace guard.root) = .ok guard.root) (hne : names ≠ []) :
    guard.resolve tree ("/".intercalate names) = .ok (.ofPlace (guard.root ++ names)) := by
  obtain ⟨reached, hfirst, hinside⟩ :=
    exists_first_inside hplace hlinks (List.prefix_append _ _) hfound
  have hsafe := isLexicallySafe_joined
    (fun name hname => hplace name (List.mem_append_right _ hname)) hne
  rw [← PathText.below_joined guard.root hne] at hfirst ⊢
  exact resolve_of_first hsafe hfirst hinside

/-! ## Files below the root -/

/--
How a guard stands in a file system: there is one item at a place, and the root is a
directory that is found at its own path.
-/
structure Stands (guard : RootGuard) (tree : FileTree) : Prop where
  wellFormed : tree.WellFormed
  unique : (tree.items.map Prod.fst).Nodup
  isDirectory : tree.isDirectory guard.root
  found : tree.locate [] (.ofPlace guard.root) = .ok guard.root

/-- Whether there is a file at a place below the root, in a directory and not behind a link. -/
def Holds (guard : RootGuard) (tree : FileTree) (place : Place) : Prop :=
  guard.root <+: place ∧ (tree.file? place).isSome

theorem Holds.isName (hholds : guard.Holds tree place) (hstands : guard.Stands tree) :
    ∀ name ∈ place, PathText.IsName name ∧ name ≠ ".." := by
  obtain ⟨content, modified, hitem⟩ := file?_isSome_iff.mp hholds.2
  exact hstands.wellFormed.isName_of_held (Option.isSome_of_eq_some hitem)

theorem Holds.exists_id (hholds : guard.Holds tree place) (hstands : guard.Stands tree) :
    ∃ id, guard.idFor (.ofPlace place) = some id ∧ guard.resolve tree id = .ok (.ofPlace place) ∧
      ∀ reached, tree.locate [] (.ofPlace place) = .ok reached → reached = place := by
  have hplace := hholds.isName hstands
  obtain ⟨⟨names, rfl⟩, hfile⟩ := hholds
  obtain ⟨content, modified, hitem⟩ := file?_isSome_iff.mp hfile
  have hlinks := hstands.wellFormed.ne_link hitem (by simp)
  have hne : names ≠ [] := by
    rintro rfl
    rw [List.append_nil, isDirectory_iff.mp hstands.isDirectory] at hitem
    cases hitem
  have hnames := PathText.names_ofNames fun name hname => (hplace name hname).1
  have hup : ".." ∉ names := fun hmem => (hplace ".." (List.mem_append_right _ hmem)).2 rfl
  exact ⟨_, idFor_of_names (PathText.isAbsolute_ofNames _) hnames hup,
    resolve_joined hplace hlinks hstands.found hne,
    fun reached hlocate => eq_of_locate_ofNames hplace hlinks hlocate⟩

theorem Holds.eq_of_idFor_eq (hholds : guard.Holds tree place) (hother : guard.Holds tree other)
    (hstands : guard.Stands tree)
    (hsame : guard.idFor (.ofPlace place) = guard.idFor (.ofPlace other)) : place = other := by
  obtain ⟨id, hid, hresolve, -⟩ := hholds.exists_id hstands
  obtain ⟨id', hid', hresolve', -⟩ := hother.exists_id hstands
  obtain rfl : id = id' := by rw [← Option.some_inj, ← hid, hsame, hid']
  have hpath : PathText.ofPlace place = .ofPlace other :=
    Except.ok.inj (hresolve.symm.trans hresolve')
  have hnames := congrArg PathText.names hpath
  rwa [PathText.ofPlace, PathText.ofPlace,
    PathText.names_ofNames fun name hname => (hholds.isName hstands name hname).1,
    PathText.names_ofNames fun name hname => (hother.isName hstands name hname).1] at hnames

end RootGuard

namespace Folder

open FileTree

variable {guard : RootGuard} {tree : FileTree} {id : String}

/-! ## The listing of a folder -/

theorem listed_iff {place : Place} :
    (match place.getLast? with
      | some name => if documentIds.isMarkdown name then guard.idFor (.ofPlace place) else none
      | none => none) = some id ↔
    ∃ directory name, place = directory ++ [name] ∧ documentIds.isMarkdown name ∧
      guard.idFor (.ofPlace place) = some id := by
  rcases List.eq_nil_or_concat place with rfl | ⟨directory, name, rfl⟩
  · simp
  · simp

theorem mem_documentIds_iff (hstands : guard.Stands tree) :
    id ∈ documentIds guard tree ↔ ∃ directory name, documentIds.isMarkdown name ∧
      guard.Holds tree (directory ++ [name]) ∧
      guard.idFor (.ofPlace (directory ++ [name])) = some id := by
  rw [documentIds, List.mem_mergeSort, List.mem_filterMap]
  constructor
  · rintro ⟨place, hplace, hlisted⟩
    obtain ⟨directory, name, rfl, hmarkdown, hid⟩ := listed_iff.mp hlisted
    exact ⟨directory, name, hmarkdown, (mem_filesBelow_iff hstands.unique).mp hplace, hid⟩
  · rintro ⟨directory, name, hmarkdown, hholds, hid⟩
    exact ⟨_, (mem_filesBelow_iff hstands.unique).mpr hholds,
      listed_iff.mpr ⟨directory, name, rfl, hmarkdown, hid⟩⟩

theorem nodup_documentIds (hstands : guard.Stands tree) : (documentIds guard tree).Nodup := by
  rw [documentIds, (List.mergeSort_perm _ _).nodup_iff, List.Nodup, List.pairwise_filterMap]
  refine (nodup_filesBelow hstands.unique guard.root).imp_of_mem ?_
  intro place other hplace hother hne id hlisted id' hlisted' hsame
  obtain ⟨directory, name, rfl, -, hid⟩ := listed_iff.mp hlisted
  obtain ⟨directory', name', rfl, -, hid'⟩ := listed_iff.mp hlisted'
  have hholds : guard.Holds tree _ := (mem_filesBelow_iff hstands.unique).mp hplace
  have hholds' : guard.Holds tree _ := (mem_filesBelow_iff hstands.unique).mp hother
  exact hne (hholds.eq_of_idFor_eq hholds' hstands (by rw [hid, hid', hsame]))

/--
Ids and paths correspond.  The id of the path of an accepted id is made of that id's names.
The path of a file below the root has an id, which is accepted and taken back to that path, so
no two files have the same id.  A listing has, once each, the ids of the files with a usual
extension.
-/
theorem ids_and_paths_correspond (guard : RootGuard) (tree : FileTree)
    (hroot : ∀ name ∈ guard.root, PathText.IsName name) :
    (∀ id path, guard.resolve tree id = .ok path →
      guard.idFor path = some ("/".intercalate (PathText.mk id).names)) ∧
    (guard.Stands tree →
      (∀ place, guard.Holds tree place → ∃ id, guard.idFor (.ofPlace place) = some id ∧
        guard.resolve tree id = .ok (.ofPlace place) ∧
        ∀ reached, tree.locate [] (.ofPlace place) = .ok reached → reached = place) ∧
      (∀ place other, guard.Holds tree place → guard.Holds tree other →
        guard.idFor (.ofPlace place) = guard.idFor (.ofPlace other) → place = other) ∧
      (documentIds guard tree).Nodup ∧
      ∀ id, id ∈ documentIds guard tree ↔ ∃ directory name, documentIds.isMarkdown name ∧
        guard.Holds tree (directory ++ [name]) ∧
        guard.idFor (.ofPlace (directory ++ [name])) = some id ∧
        guard.resolve tree id = .ok (.ofPlace (directory ++ [name]))) := by
  refine ⟨fun id path hresolve => RootGuard.idFor_of_resolve hroot hresolve, fun hstands => ?_⟩
  refine ⟨fun place hholds => hholds.exists_id hstands,
    fun place other hholds hother => hholds.eq_of_idFor_eq hother hstands,
    nodup_documentIds hstands, fun id => ?_⟩
  rw [mem_documentIds_iff hstands]
  constructor
  · rintro ⟨directory, name, hmarkdown, hholds, hid⟩
    obtain ⟨id', hid', hresolve, -⟩ := hholds.exists_id hstands
    obtain rfl : id' = id := Option.some.inj (hid'.symm.trans hid)
    exact ⟨directory, name, hmarkdown, hholds, hid, hresolve⟩
  · rintro ⟨directory, name, hmarkdown, hholds, hid, -⟩
    exact ⟨directory, name, hmarkdown, hholds, hid⟩

def nested : FileTree :=
  ⟨[(["root"], .directory), (["root", "guides"], .directory),
    (["root", "guides", "intro.md"], .file "a".toUTF8 ⟨2000000001, 0⟩),
    (["root", "alias.md"], .link ⟨"guides/intro.md"⟩)]⟩

theorem stands_nested : RootGuard.Stands ⟨["root"]⟩ nested where
  wellFormed := wellFormed_of_items (by decide)
  unique := by decide
  isDirectory := by decide
  found := (wellFormed_of_items (by decide)).locate_ofPlace
    (show nested.get? ["root"] = some .directory from rfl) (by simp) (by decide) (by decide)

theorem nested_document_has_one_id :
    (∀ name ∈ ["root"], PathText.IsName name) ∧ RootGuard.Stands ⟨["root"]⟩ nested ∧
      RootGuard.idFor ⟨["root"]⟩ (.ofPlace ["root", "guides", "intro.md"]) =
        some "guides/intro.md" ∧
      RootGuard.resolve ⟨["root"]⟩ nested "guides/intro.md" =
        .ok (.ofPlace ["root", "guides", "intro.md"]) := by
  have hroot : ∀ name ∈ ["root"], PathText.IsName name := by decide
  have hholds : RootGuard.Holds ⟨["root"]⟩ nested ["root", "guides", "intro.md"] :=
    ⟨⟨["guides", "intro.md"], rfl⟩, by decide⟩
  obtain ⟨hfiles, -⟩ := (ids_and_paths_correspond ⟨["root"]⟩ nested hroot).2 stands_nested
  obtain ⟨id, hid, hresolve, -⟩ := hfiles _ hholds
  have hwritten : RootGuard.idFor ⟨["root"]⟩ (.ofPlace ["root", "guides", "intro.md"]) =
      some "guides/intro.md" := by decide
  obtain rfl : id = "guides/intro.md" := Option.some.inj (hid.symm.trans hwritten)
  exact ⟨hroot, stands_nested, hwritten, hresolve⟩

end Folder

end Sections
