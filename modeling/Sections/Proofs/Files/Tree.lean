import Sections.Proofs.Association
import Sections.Proofs.Files.Walk
import Sections.Proofs.Outcome

/-!
# Trees and their directories

In a well-formed tree every item stands in a directory.  So a directory there is reached through
directories only, and a place at which there is nothing has nothing below it either.
-/

namespace Sections.FileTree

variable {tree : FileTree} {place other directory : Place} {name : String} {item : FileItem}

theorem get?_put_self (tree : FileTree) (directory : Place) (name : String) (item : FileItem) :
    (tree.put (directory ++ [name]) item).get? (directory ++ [name]) = some item := by
  simp [put, get?]

theorem get?_put_of_ne (hne : other ≠ place) (item : FileItem) :
    (tree.put place item).get? other = tree.get? other := by
  have hbeq : (other == place) = false := by simpa using hne
  simp [put, get?, erase, List.lookup_cons, hbeq, lookup_filter_ne hne]

theorem get?_erase_self (tree : FileTree) (directory : Place) (name : String) :
    (tree.erase (directory ++ [name])).get? (directory ++ [name]) = none := by
  have hgone : directory ++ [name] ∉
      (tree.erase (directory ++ [name])).items.map Prod.fst := by
    simp [erase]
  rw [get?, if_neg (by simp), lookup_eq_none_of_notMem hgone]

theorem get?_erase_of_ne (hne : other ≠ place) :
    (tree.erase place).get? other = tree.get? other := by
  simp [get?, erase, lookup_filter_ne hne]

theorem extends_put (hfree : tree.get? place = none) (item : FileItem) :
    Extends tree (tree.put place item) := by
  intro other held hheld
  have hne : other ≠ place := by
    rintro rfl
    simp [hfree] at hheld
  rw [get?_put_of_ne hne, hheld]

def file? (tree : FileTree) (place : Place) : Option (ByteArray × Timestamp) :=
  match tree.get? place with
  | some (.file content modified) => some (content, modified)
  | _ => none

theorem file?_isSome_iff : (tree.file? place).isSome ↔
    ∃ content modified, tree.get? place = some (.file content modified) := by
  unfold file?
  split <;> simp_all

/-- Whether two trees have the same files; they may differ in directories and links. -/
def SameFiles (tree larger : FileTree) : Prop := ∀ place, larger.file? place = tree.file? place

theorem file?_congr {larger : FileTree} (hsame : larger.get? place = tree.get? place) :
    larger.file? place = tree.file? place := by
  rw [file?, file?, hsame]

theorem sameFiles_put_directory (hfree : tree.get? (directory ++ [name]) = none) :
    SameFiles tree (tree.put (directory ++ [name]) .directory) := by
  intro other
  by_cases hother : other = directory ++ [name]
  · rw [hother, file?, file?, get?_put_self, hfree]
  · exact file?_congr (get?_put_of_ne hother .directory)

/-! ## Files below a directory -/

theorem mem_filesBelow_iff (hunique : (tree.items.map Prod.fst).Nodup) :
    place ++ [name] ∈ tree.filesBelow directory ↔
      directory <+: place ++ [name] ∧ (tree.file? (place ++ [name])).isSome := by
  have hitem (item : FileItem) : tree.get? (place ++ [name]) = some item ↔
      (place ++ [name], item) ∈ tree.items := by
    rw [get?, if_neg (by simp), lookup_eq_some_iff_mem hunique]
  simp only [file?_isSome_iff, hitem, filesBelow, List.mem_filterMap, Prod.exists]
  constructor
  · rintro ⟨other, item, hmem, hfound⟩
    cases item with
    | directory | link target => simp at hfound
    | file content modified =>
        obtain ⟨hinside, rfl⟩ : directory <+: other ∧ other = place ++ [name] := by
          simpa using hfound
        exact ⟨hinside, content, modified, hmem⟩
  · rintro ⟨hinside, content, modified, hmem⟩
    exact ⟨_, _, hmem, by simp [hinside]⟩

theorem nodup_filesBelow (hunique : (tree.items.map Prod.fst).Nodup) (directory : Place) :
    (tree.filesBelow directory).Nodup := by
  rw [filesBelow, List.Nodup, List.pairwise_filterMap]
  refine (List.pairwise_map.mp hunique).imp ?_
  rintro ⟨first, item⟩ ⟨second, other⟩ hne place hplace found hfound
  cases item <;> cases other <;> simp_all

/-! ## Well-formed trees -/

/-- What a tree of a file system is like: items have names and stand in directories. -/
def WellFormed (tree : FileTree) : Prop :=
  ∀ directory name, (tree.get? (directory ++ [name])).isSome →
    tree.isDirectory directory ∧ PathText.IsName name ∧ name ≠ ".."

theorem wellFormed_of_items
    (hitems : ∀ entry ∈ tree.items, ∀ name ∈ entry.1.getLast?,
      tree.isDirectory entry.1.dropLast ∧ PathText.IsName name ∧ name ≠ "..") :
    tree.WellFormed := by
  intro directory name hheld
  have hmem : directory ++ [name] ∈ tree.items.map Prod.fst := by
    by_contra hnone
    simp [get?, lookup_eq_none_of_notMem hnone] at hheld
  obtain ⟨entry, hentry, hplace⟩ := List.mem_map.mp hmem
  have hitem := hitems entry hentry
  rw [hplace] at hitem
  simpa using hitem

/-- Whether a place and all places above it are directories, so that no link leads there. -/
def IsCanonical (tree : FileTree) (place : Place) : Prop :=
  ∀ stem, stem <+: place → tree.isDirectory stem

theorem IsCanonical.extends {larger : FileTree} (hcanonical : tree.IsCanonical place)
    (hextends : Extends tree larger) : larger.IsCanonical place :=
  fun stem hstem => hextends.isDirectory (hcanonical stem hstem)

theorem isDirectory_iff : tree.isDirectory place ↔ tree.get? place = some .directory := by
  simp [isDirectory]

theorem WellFormed.isCanonical (hwell : tree.WellFormed) (hplace : tree.isDirectory place) :
    tree.IsCanonical place := by
  induction place using List.reverseRecOn with
  | nil =>
      intro stem hstem
      rwa [List.prefix_nil.mp hstem]
  | append_singleton directory name ih =>
      intro stem hstem
      rcases List.prefix_concat_iff.mp hstem with rfl | hshort
      · exact hplace
      · have habove := (hwell directory name (by simp [isDirectory_iff.mp hplace])).1
        exact ih habove stem hshort

theorem WellFormed.isName_of_held (hwell : tree.WellFormed) (hheld : (tree.get? place).isSome) :
    ∀ name ∈ place, PathText.IsName name ∧ name ≠ ".." := by
  induction place using List.reverseRecOn with
  | nil => simp
  | append_singleton directory last ih =>
      obtain ⟨habove, hlast⟩ := hwell directory last hheld
      intro name hname
      rcases List.mem_append.mp hname with hfront | hself
      · exact ih (by simp [isDirectory_iff.mp habove]) name hfront
      · rwa [List.mem_singleton.mp hself]

theorem WellFormed.isName (hwell : tree.WellFormed) (hplace : tree.isDirectory place) :
    ∀ name ∈ place, PathText.IsName name ∧ name ≠ ".." :=
  hwell.isName_of_held (by simp [isDirectory_iff.mp hplace])

theorem WellFormed.ne_link (hwell : tree.WellFormed) (hitem : tree.get? place = some item)
    (hlink : ∀ target, item ≠ .link target) :
    ∀ stem, stem <+: place → ∀ target, tree.get? stem ≠ some (.link target) := by
  intro stem hstem target hthere
  by_cases hself : stem = place
  · rw [hself, hitem] at hthere
    exact hlink target (Option.some.inj hthere)
  · rcases List.eq_nil_or_concat place with rfl | ⟨directory, last, rfl⟩
    · exact hself (List.prefix_nil.mp hstem)
    · rw [List.concat_eq_append] at hitem hstem hself
      have habove := (hwell directory last (by simp [hitem])).1
      have hfront := (List.prefix_concat_iff.mp hstem).resolve_left hself
      simp [isDirectory_iff.mp (hwell.isCanonical habove stem hfront)] at hthere

theorem WellFormed.get?_below (hwell : tree.WellFormed) (hfree : tree.get? directory = none)
    (name : String) : tree.get? (directory ++ [name]) = none := by
  by_contra hheld
  have habove := (hwell directory name (Option.isSome_iff_ne_none.mpr hheld)).1
  simp [isDirectory_iff, hfree] at habove

theorem WellFormed.put (hwell : tree.WellFormed) (hdirectory : tree.isDirectory directory)
    (hname : PathText.IsName name ∧ name ≠ "..") (hfree : tree.get? (directory ++ [name]) = none)
    (item : FileItem) : (tree.put (directory ++ [name]) item).WellFormed := by
  have hextends := extends_put hfree item
  intro above last hheld
  by_cases hsame : above ++ [last] = directory ++ [name]
  · obtain ⟨rfl, hlast⟩ := List.append_inj' hsame rfl
    obtain rfl : last = name := by simpa using hlast
    exact ⟨hextends.isDirectory hdirectory, hname⟩
  · rw [get?_put_of_ne hsame] at hheld
    obtain ⟨habove, hlast⟩ := hwell above last hheld
    exact ⟨hextends.isDirectory habove, hlast⟩

theorem WellFormed.exists_of_leads (hwell : tree.WellFormed) {links left : Nat} {reached : Place}
    {steps : List String} (hleads : Leads tree links place steps left reached)
    (hplace : ∃ item, tree.get? place = some item ∧ ∀ target, item ≠ .link target) :
    ∃ item, tree.get? reached = some item ∧ ∀ target, item ≠ .link target := by
  induction hleads with
  | done links place => exact hplace
  | dot hdirectory hrest ih => exact ih hplace
  | @up links left place reached rest hdirectory hrest ih =>
      refine ih ⟨.directory, ?_, by simp⟩
      exact isDirectory_iff.mp (hwell.isCanonical hdirectory _ (List.dropLast_prefix place))
  | @link links left place reached step rest target hdirectory hdot hup hlength hitem hrest ih =>
      refine ih ⟨.directory, ?_, by simp⟩
      split
      · rfl
      · exact isDirectory_iff.mp hdirectory
  | @item links left place reached step rest item hdirectory hdot hup hlength hitem hlink
    hrest ih =>
      exact ih ⟨item, hitem, hlink⟩

theorem Leads.eq_of_ne_link {links left : Nat} {names : List String} {reached : Place}
    (hleads : Leads tree links place names left reached)
    (hlinks : ∀ stem, stem <+: place ++ names → ∀ target, tree.get? stem ≠ some (.link target))
    (hnames : ∀ name ∈ names, PathText.IsName name ∧ name ≠ "..") : reached = place ++ names := by
  induction hleads with
  | done links place => simp
  | dot => exact absurd rfl (hnames "." List.mem_cons_self).1.ne_dot
  | up => exact absurd rfl (hnames ".." List.mem_cons_self).2
  | @link links left place reached step rest target hdirectory hdot hup hlength hitem hrest ih =>
      exact absurd hitem (hlinks (place ++ [step]) (by simp) target)
  | @item links left place reached step rest item hdirectory hdot hup hlength hitem hlink
    hrest ih =>
      rw [List.append_cons] at hlinks ⊢
      exact ih hlinks fun name hname => hnames name (List.mem_cons_of_mem _ hname)

theorem Leads.eq_of_isCanonical {links left : Nat} {names : List String} {reached : Place}
    (hleads : Leads tree links place names left reached)
    (hcanonical : tree.IsCanonical (place ++ names))
    (hnames : ∀ name ∈ names, PathText.IsName name ∧ name ≠ "..") : reached = place ++ names := by
  refine hleads.eq_of_ne_link (fun stem hstem target hlink => ?_) hnames
  have hthere := hcanonical stem hstem
  simp [isDirectory_iff, hlink] at hthere

/-! ## Single steps -/

theorem isDirectory_of_walk_cons {links : Nat} {step : String} {rest : List String}
    {reached : Place} (hwalk : tree.walk links place (step :: rest) = .ok reached) :
    tree.isDirectory place := by
  by_contra hother
  rw [walk] at hwalk
  simp [hother] at hwalk

theorem walk_dot (links : Nat) (hdirectory : tree.isDirectory place) :
    tree.walk links place ["."] = .ok place := by
  rw [walk, walk]
  simp [hdirectory]

theorem exists_leads_of_walk_dot {links : Nat} {steps : List String} {reached : Place}
    (hwalk : tree.walk links place (steps ++ ["."]) = .ok reached) :
    ∃ left, Leads tree links place steps left reached ∧ tree.isDirectory reached := by
  obtain ⟨left, middle, hleads, hdot⟩ := exists_leads_of_walk_append hwalk
  have hdirectory := isDirectory_of_walk_cons hdot
  rw [walk_dot left hdirectory] at hdot
  cases hdot
  exact ⟨left, hleads, hdirectory⟩

theorem walk_name (links : Nat) (hdirectory : tree.isDirectory place)
    (hname : PathText.IsName name ∧ name ≠ "..") (hlength : name.utf8ByteSize ≤ longestName)
    (hitem : tree.get? (place ++ [name]) = some item) (hlink : ∀ target, item ≠ .link target) :
    tree.walk links place [name] = .ok (place ++ [name]) := by
  rw [walk]
  simp only [hdirectory, hname.1.ne_dot, hname.2, Nat.not_lt.mpr hlength, hitem, Bool.not_true,
    Bool.false_eq_true, if_false]
  cases item with
  | link target => exact absurd rfl (hlink target)
  | directory | file content modified => rw [walk]

theorem WellFormed.walk_self (hwell : tree.WellFormed) (hitem : tree.get? place = some item)
    (hlink : ∀ target, item ≠ .link target)
    (hlength : ∀ name ∈ place, name.utf8ByteSize ≤ longestName) (links : Nat) :
    tree.walk links [] place = .ok place := by
  induction place using List.reverseRecOn generalizing item with
  | nil => rw [walk]
  | append_singleton directory name ih =>
      obtain ⟨hdirectory, hname⟩ := hwell directory name (Option.isSome_of_eq_some hitem)
      have habove := ih (isDirectory_iff.mp hdirectory) (by simp)
        fun piece hpiece => hlength piece (List.mem_append_left _ hpiece)
      obtain ⟨left, hleads⟩ := exists_leads_of_walk habove
      rw [hleads.walk_append, walk_name left hdirectory hname (hlength name (by simp)) hitem hlink]

theorem get?_of_walk_name {links : Nat} {reached : Place} (hdot : name ≠ ".") (hup : name ≠ "..")
    (hwalk : tree.walk links place [name] = .ok reached) :
    (tree.get? (place ++ [name])).isSome := by
  have hdirectory := isDirectory_of_walk_cons hwalk
  rw [walk] at hwalk
  cases hitem : tree.get? (place ++ [name]) with
  | none => by_cases hlong : longestName < name.utf8ByteSize <;>
      simp [hdirectory, hdot, hup, hitem, hlong] at hwalk
  | some item => rfl

/-! ## Paths that are made of names -/

variable {workingDirectory : Place} {path : PathText} {names front : List String}

theorem locate_of_isAbsolute (tree : FileTree) (workingDirectory : Place)
    (habsolute : path.isAbsolute) : tree.locate workingDirectory path = tree.locate [] path := by
  simp [locate, origin, habsolute]

theorem read_of_locate (hlocate : tree.locate workingDirectory path = .ok place) :
    tree.read workingDirectory path =
      match tree.get? place with
      | some (.file content modified) => .ok (content, modified)
      | some .directory => .error (.system .isDirectory)
      | _ => .error (.system .notFound) := by
  simp only [read, hlocate, bind, Except.bind]
  rcases tree.get? place with _ | ⟨_ | _ | _⟩ <;> rfl

theorem WellFormed.exists_of_locate (hwell : tree.WellFormed) (habsolute : path.isAbsolute)
    (hlocate : tree.locate workingDirectory path = .ok place) :
    ∃ item, tree.get? place = some item ∧ ∀ target, item ≠ .link target := by
  obtain ⟨⟨⟩, -, hwalk⟩ := inv_bind_ok hlocate
  obtain ⟨left, hleads⟩ := exists_leads_of_walk (inv_mapError_ok hwalk)
  rw [origin, if_pos habsolute] at hleads
  exact hwell.exists_of_leads hleads ⟨.directory, rfl, by simp⟩

theorem locate_ofNames (tree : FileTree) (workingDirectory : Place)
    (hnames : ∀ name ∈ names, PathText.IsName name) :
    tree.locate workingDirectory (.ofNames true names) = (do
      checkPath (.ofNames true names)
      (tree.walk mostLinks [] names).mapError .system) := by
  have horigin : origin workingDirectory (.ofNames true names) = [] := by
    simp [origin, PathText.isAbsolute_ofNames]
  have hwalk : tree.walk mostLinks [] (PathText.ofNames true names).steps =
      tree.walk mostLinks [] names := by
    by_cases hnil : names = []
    · have hsteps : (PathText.ofNames true names).steps = ["."] := by
        subst hnil
        decide
      rw [hsteps, hnil, walk, walk, walk]
      simp [isDirectory, get?]
    · simp [PathText.steps, PathText.names_ofNames hnames, PathText.ending_ofNames hnames hnil]
  rw [locate, horigin, hwalk]

theorem leads_of_locate_ofNames (hnames : ∀ name ∈ names, PathText.IsName name)
    (hlocate : tree.locate workingDirectory (.ofNames true names) = .ok place) :
    ∃ left, Leads tree mostLinks [] names left place := by
  rw [locate_ofNames _ _ hnames] at hlocate
  obtain ⟨⟨⟩, -, hwalk⟩ := inv_bind_ok hlocate
  exact exists_leads_of_walk (inv_mapError_ok hwalk)

theorem WellFormed.locate_ofPlace (hwell : tree.WellFormed) (hitem : tree.get? place = some item)
    (hlink : ∀ target, item ≠ .link target)
    (hlength : ∀ name ∈ place, name.utf8ByteSize ≤ longestName)
    (hcheck : checkPath (.ofPlace place) = .ok ()) :
    tree.locate workingDirectory (.ofPlace place) = .ok place := by
  have hnames := hwell.isName_of_held (Option.isSome_of_eq_some hitem)
  rw [PathText.ofPlace] at hcheck ⊢
  rw [locate_ofNames _ _ fun name hname => (hnames name hname).1, hcheck,
    hwell.walk_self hitem hlink hlength]
  rfl

theorem eq_of_locate_ofNames (hnames : ∀ name ∈ names, PathText.IsName name ∧ name ≠ "..")
    (hlinks : ∀ stem, stem <+: names → ∀ target, tree.get? stem ≠ some (.link target))
    (hlocate : tree.locate workingDirectory (.ofNames true names) = .ok place) :
    place = names := by
  obtain ⟨left, hleads⟩ :=
    leads_of_locate_ofNames (fun name hname => (hnames name hname).1) hlocate
  exact hleads.eq_of_ne_link hlinks hnames

theorem locateEntry_of_names (tree : FileTree) (workingDirectory : Place)
    (habsolute : path.isAbsolute) (hnames : path.names = front ++ [name])
    (hending : path.ending ≠ .dot) :
    tree.locateEntry workingDirectory path =
      match checkPath path with
      | .error fault => .error fault
      | .ok () =>
        match tree.walk mostLinks [] (front ++ ["."]) with
        | .error fault => .error (.system fault)
        | .ok directory =>
          if name = ".." then .ok none
          else if longestName < name.utf8ByteSize then .error (.system .nameTooLong)
          else .ok (some (directory ++ [name])) := by
  simp only [locateEntry, origin, habsolute, hnames, hending, if_true, if_false, false_or,
    List.dropLast_concat, List.getLast?_concat]
  rcases checkPath path with fault | ⟨⟩
  · rfl
  · rcases tree.walk mostLinks [] (front ++ ["."]) with fault | directory
    · rfl
    · rfl

theorem locateEntry_ofNames (tree : FileTree) (workingDirectory : Place)
    (hnames : ∀ piece ∈ front ++ [name], PathText.IsName piece) :
    tree.locateEntry workingDirectory (.ofNames true (front ++ [name])) =
      match checkPath (.ofNames true (front ++ [name])) with
      | .error fault => .error fault
      | .ok () =>
        match tree.walk mostLinks [] (front ++ ["."]) with
        | .error fault => .error (.system fault)
        | .ok directory =>
          if name = ".." then .ok none
          else if longestName < name.utf8ByteSize then .error (.system .nameTooLong)
          else .ok (some (directory ++ [name])) := by
  refine locateEntry_of_names tree workingDirectory (PathText.isAbsolute_ofNames _)
    (PathText.names_ofNames hnames) ?_
  simp [PathText.ending_ofNames hnames]

/-- What it takes for the last name of a path to stand for an entry of a directory. -/
structure IsEntry (tree : FileTree) (path : PathText) (above : List String) (name : String)
    (directory : Place) : Prop where
  check : checkPath path = .ok ()
  leads : tree.walk mostLinks [] (above ++ ["."]) = .ok directory
  ne_dot : path.ending ≠ .dot
  ne_up : name ≠ ".."
  length : name.utf8ByteSize ≤ longestName

theorem IsEntry.extends {larger : FileTree} (hentry : IsEntry tree path front name directory)
    (hextends : Extends tree larger) : IsEntry larger path front name directory :=
  ⟨hentry.check, hextends.walk hentry.leads, hentry.ne_dot, hentry.ne_up, hentry.length⟩

theorem IsEntry.locateEntry (hentry : IsEntry tree path front name directory)
    (habsolute : path.isAbsolute) (hnames : path.names = front ++ [name])
    (workingDirectory : Place) :
    tree.locateEntry workingDirectory path = .ok (some (directory ++ [name])) := by
  simp [locateEntry_of_names tree workingDirectory habsolute hnames hentry.ne_dot, hentry.check,
    hentry.leads, hentry.ne_up, Nat.not_lt.mpr hentry.length]

theorem isEntry_of_locateEntry (habsolute : path.isAbsolute)
    (hnames : path.names = front ++ [name])
    (hplace : tree.locateEntry workingDirectory path = .ok (some place)) :
    ∃ directory, place = directory ++ [name] ∧ IsEntry tree path front name directory := by
  by_cases hending : path.ending = .dot
  · obtain ⟨⟨⟩, -, hrest⟩ := inv_bind_ok hplace
    obtain ⟨directory, -, hnone⟩ := inv_bind_ok hrest
    simp only [hnames, hending, List.getLast?_concat, true_or, if_true] at hnone
    cases hnone
  · rw [locateEntry_of_names tree workingDirectory habsolute hnames hending] at hplace
    split at hplace
    · cases hplace
    · next hcheck =>
        split at hplace
        · cases hplace
        · next directory hwalk =>
            by_cases hup : name = ".."
            · simp [hup] at hplace
            · by_cases hlong : longestName < name.utf8ByteSize
              · simp [hup, hlong] at hplace
              · obtain rfl : directory ++ [name] = place := by simpa [hup, hlong] using hplace
                exact ⟨directory, rfl, hcheck, hwalk, hending, hup, Nat.not_lt.mp hlong⟩

theorem checkPath_ofNames_isNotFound {names : List String} {fault : FileFault}
    (hcheck : checkPath (.ofNames true names) = .error fault) : fault.isNotFound = false := by
  have hne := PathText.text_ofNames_ne_empty names
  unfold checkPath at hcheck
  split at hcheck
  · cases hcheck
    rfl
  · split at hcheck
    · cases hcheck
      rfl
    · cases hcheck

theorem locateEntry_root (tree : FileTree) (workingDirectory : Place)
    (hcheck : checkPath (.ofNames true []) = .ok ()) :
    tree.locateEntry workingDirectory (.ofNames true []) = .ok none := by
  have hending : (PathText.ofNames true []).ending = .dot := by decide
  have hnames : (PathText.ofNames true []).names = [] := by decide
  have hwalk : tree.walk mostLinks [] ["."] = .ok [] :=
    walk_dot mostLinks (by simp [isDirectory, get?])
  simp [locateEntry, hcheck, hending, hnames, PathText.steps, origin, PathText.isAbsolute_ofNames,
    hwalk, Except.mapError]
  rfl

theorem checkPath_ofNames (habsolute : path.isAbsolute) (hkept : names.Sublist path.names)
    (hcheck : checkPath path = .ok ()) : checkPath (.ofNames true names) = .ok () := by
  have hsub := PathText.toList_ofNames_sublist habsolute hkept
  have hlength := utf8ByteSize_le_of_sublist hsub
  have hne := PathText.text_ofNames_ne_empty names
  unfold checkPath at hcheck ⊢
  have hnul : '\x00' ∉ path.text.toList := by
    intro hmem
    simp [hmem] at hcheck
  have hshort : path.text.utf8ByteSize ≤ longestPath := by
    by_contra hlong
    by_cases hempty : path.text = "" <;> simp [hnul, hempty, Nat.lt_of_not_le hlong] at hcheck
  have hnul' : '\x00' ∉ (PathText.ofNames true names).text.toList :=
    fun hmem => hnul (hsub.subset hmem)
  simp [hnul', hne, Nat.not_lt.mpr (hlength.trans hshort)]

theorem IsEntry.locate_directory (hentry : IsEntry tree path front name directory)
    (habsolute : path.isAbsolute) (hnames : path.names = front ++ [name]) :
    tree.locate [] (.ofNames true front) = .ok directory := by
  obtain ⟨left, hleads, -⟩ := exists_leads_of_walk_dot hentry.leads
  rw [locate_ofNames _ _ (PathText.isName_of_front hnames),
    checkPath_ofNames habsolute (by simp [hnames]) hentry.check, hleads.walk]
  rfl

theorem locate_front {back : List String} {reached : Place} (habsolute : path.isAbsolute)
    (hnames : path.names = front ++ back)
    (hlocate : tree.locate workingDirectory path = .ok reached) :
    ∃ middle, tree.locate workingDirectory (.ofNames true front) = .ok middle ∧
      (back ≠ [] → tree.isDirectory middle) := by
  obtain ⟨⟨⟩, hcheck, hwalk⟩ := inv_bind_ok hlocate
  have hkept : front.Sublist path.names := by
    rw [hnames]
    exact List.sublist_append_left _ _
  have hsteps := inv_mapError_ok hwalk
  rw [origin, if_pos habsolute, PathText.steps, hnames, List.append_assoc] at hsteps
  obtain ⟨left, middle, hleads, hback⟩ := exists_leads_of_walk_append hsteps
  refine ⟨middle, ?_, ?_⟩
  · rw [locate_ofNames tree workingDirectory (PathText.isName_of_front hnames),
      checkPath_ofNames habsolute hkept hcheck, hleads.walk]
    rfl
  · intro hne
    obtain ⟨step, rest, rfl⟩ := List.exists_cons_of_ne_nil hne
    exact isDirectory_of_walk_cons hback

end Sections.FileTree
