import Sections.Files.PathText
import Sections.Proofs.Text.Split

/-!
# Paths that are made of names

A path that is written from names has these names again when it is read.
-/

namespace Sections.PathText

structure IsName (name : String) : Prop where
  ne_empty : name ≠ ""
  ne_dot : name ≠ "."
  noSlash : '/' ∉ name.toList

instance : DecidablePred IsName := fun name =>
  decidable_of_iff (name ≠ "" ∧ name ≠ "." ∧ '/' ∉ name.toList)
    ⟨fun ⟨hempty, hdot, hslash⟩ => ⟨hempty, hdot, hslash⟩,
      fun ⟨hempty, hdot, hslash⟩ => ⟨hempty, hdot, hslash⟩⟩

theorem isName_of_mem_names (path : PathText) {name : String} (hname : name ∈ path.names) :
    IsName name := by
  obtain ⟨hpiece, hkept⟩ := List.mem_filter.mp hname
  obtain ⟨piece, hsplit, rfl⟩ := List.mem_map.mp hpiece
  rw [splitAll_eq_splitOn] at hsplit
  have hne : String.ofList piece ≠ "" ∧ String.ofList piece ≠ "." := by simpa using hkept
  exact ⟨hne.1, hne.2, by simpa using notMem_of_mem_splitOn hsplit⟩

theorem isName_of_front {path : PathText} {front back : List String}
    (hnames : path.names = front ++ back) : ∀ name ∈ front, IsName name := by
  intro name hname
  exact isName_of_mem_names path (by rw [hnames]; exact List.mem_append_left _ hname)

theorem isName_of_last {path : PathText} {above : List String} {name : String}
    (hnames : path.names = above ++ [name]) : IsName name :=
  isName_of_mem_names path (by simp [hnames])

/-! ## Writing names -/

variable {names : List String}

theorem splitOn_joined (hnames : ∀ name ∈ names, IsName name) (hne : names ≠ []) :
    (['/'].intercalate (names.map String.toList)).splitOn '/' = names.map String.toList := by
  have hslash : ∀ piece ∈ names.map String.toList, '/' ∉ piece := by
    simpa using fun name hname => (hnames name hname).noSlash
  exact List.splitOn_intercalate '/' hslash (by simpa using hne)

theorem toList_ofNames (names : List String) :
    (ofNames true names).text.toList = '/' :: ['/'].intercalate (names.map String.toList) := by
  simp [ofNames]

theorem text_ofNames_ne_empty (names : List String) : (ofNames true names).text ≠ "" := by
  intro hempty
  have hchars := toList_ofNames names
  simp [hempty] at hchars

theorem isAbsolute_ofNames (names : List String) : (ofNames true names).isAbsolute := by
  simp [isAbsolute, toList_ofNames]

theorem pieces_ofNames (hnames : ∀ name ∈ names, IsName name) :
    (ofNames true names).pieces = "" :: if names = [] then [""] else names := by
  unfold pieces
  rw [toList_ofNames, splitAll_eq_splitOn, List.splitOn_cons_eq_if_modifyHead, if_pos (by simp)]
  by_cases hnil : names = []
  · simp [hnil]
  · rw [splitOn_joined hnames hnil, if_neg hnil]
    simp [Function.comp_def]

theorem filter_ne_empty (hnames : ∀ name ∈ names, IsName name) :
    names.filter (· != "") = names := by
  rw [List.filter_eq_self]
  intro name hname
  simpa using (hnames name hname).ne_empty

theorem filter_isName (hnames : ∀ name ∈ names, IsName name) :
    names.filter (fun piece => piece != "" && piece != ".") = names := by
  rw [List.filter_eq_self]
  intro name hname
  simpa using ⟨(hnames name hname).ne_empty, (hnames name hname).ne_dot⟩

theorem names_ofNames (hnames : ∀ name ∈ names, IsName name) :
    (ofNames true names).names = names := by
  rw [PathText.names, pieces_ofNames hnames]
  by_cases hnil : names = []
  · simp [hnil]
  · simp [hnil, filter_isName hnames]

theorem ending_ofNames (hnames : ∀ name ∈ names, IsName name) (hne : names ≠ []) :
    (ofNames true names).ending = .name := by
  have hlast := hnames _ (List.getLast_mem hne)
  unfold ending
  rw [pieces_ofNames hnames, if_neg hne, List.filter_cons_of_neg (by simp), filter_ne_empty hnames,
    List.getLast?_cons, List.getLast?_eq_getLast_of_ne_nil hne]
  simp [hlast.ne_dot, hlast.ne_empty]

theorem parent?_of_names {path : PathText} {above : List String} {name : String}
    (habsolute : path.isAbsolute) (hnames : path.names = above ++ [name]) :
    path.parent? = some (ofNames true above) := by
  simp [parent?, hnames, habsolute]

theorem ancestors_ofPlace {place : Place} (hplace : ∀ name ∈ place, IsName name) :
    (ofPlace place).ancestors =
      (List.range (place.length + 1)).reverse.map fun count => ofPlace (place.take count) := by
  simp [ancestors, ofPlace, names_ofNames hplace, isAbsolute_ofNames, List.range_succ]

/-! ## Paths below a place -/

theorem isAbsolute_below (place : Place) (relative : String) :
    (below place relative).isAbsolute := by
  unfold below
  split
  · simp [isAbsolute]
  · simp [isAbsolute, ofPlace, toList_ofNames]

theorem pieces_below {place : Place} (hplace : ∀ name ∈ place, IsName name) (relative : String) :
    (below place relative).pieces = "" :: (place ++ (PathText.mk relative).pieces) := by
  unfold below pieces
  rw [splitAll_eq_splitOn, splitAll_eq_splitOn]
  by_cases hnil : place = []
  · simp [hnil, List.splitOn_cons_eq_if_modifyHead]
  · rw [if_neg (by simpa using hnil)]
    have htext : ((ofPlace place).text ++ "/" ++ relative).toList =
        '/' :: (['/'].intercalate (place.map String.toList) ++ '/' :: relative.toList) := by
      simp [ofPlace, toList_ofNames]
    rw [htext, List.splitOn_cons_eq_if_modifyHead, if_pos (by simp), List.splitOn_append_cons_self,
      splitOn_joined hplace hnil]
    simp [Function.comp_def]

theorem names_below {place : Place} (hplace : ∀ name ∈ place, IsName name) (relative : String) :
    (below place relative).names = place ++ (PathText.mk relative).names := by
  unfold names
  rw [pieces_below hplace, List.filter_cons_of_neg (by simp), List.filter_append,
    filter_isName hplace]

/-! ## Names that are joined -/

theorem names_joined (hnames : ∀ name ∈ names, IsName name) :
    (PathText.mk ("/".intercalate names)).names = names := by
  by_cases hnil : names = []
  · subst hnil
    decide
  · have hpieces : (PathText.mk ("/".intercalate names)).pieces = names := by
      rw [pieces, splitAll_eq_splitOn, String.toList_intercalate]
      simp [splitOn_joined hnames hnil, Function.comp_def]
    rw [PathText.names, hpieces, filter_isName hnames]

theorem isAbsolute_joined (hnames : ∀ name ∈ names, IsName name) :
    (PathText.mk ("/".intercalate names)).isAbsolute = false := by
  unfold isAbsolute
  rcases names with _ | ⟨name, rest⟩
  · rfl
  · have hname := hnames name List.mem_cons_self
    obtain ⟨c, tail, hchars⟩ := List.exists_cons_of_ne_nil
      (show name.toList ≠ [] by simpa using hname.ne_empty)
    have hfirst : c ≠ '/' := by
      rintro rfl
      exact hname.noSlash (by simp [hchars])
    cases rest <;> simp [hchars, hfirst]

theorem below_joined (place : Place) (hne : names ≠ []) :
    below place ("/".intercalate names) = .ofPlace (place ++ names) := by
  unfold below ofPlace ofNames
  by_cases hnil : place = []
  · simp [hnil]
  · rw [if_neg (by simpa using hnil), String.intercalate_append_of_ne_nil hnil hne]
    simp [String.append_assoc]

/-! ## Shorter paths -/

theorem toList_ofNames_sublist {path : PathText} (habsolute : path.isAbsolute)
    (hkept : names.Sublist path.names) :
    (ofNames true names).text.toList.Sublist path.text.toList := by
  obtain ⟨tail, htail⟩ : ∃ tail, path.text.toList = '/' :: tail := by
    unfold isAbsolute at habsolute
    cases htext : path.text.toList with
    | nil => simp [htext] at habsolute
    | cons c tail => exact ⟨tail, by simpa [htext] using habsolute⟩
  have hpieces : path.pieces = "" :: (tail.splitOn '/').map String.ofList := by
    rw [pieces, splitAll_eq_splitOn, htail, List.splitOn_cons_eq_if_modifyHead, if_pos (by simp)]
    rfl
  have hsub : names.Sublist ((tail.splitOn '/').map String.ofList) := by
    rw [PathText.names, hpieces, List.filter_cons_of_neg (by simp)] at hkept
    exact hkept.trans List.filter_sublist
  have hchars := intercalate_sublist '/' (hsub.map String.toList)
  rw [toList_ofNames, htail]
  simpa [Function.comp_def] using hchars

theorem toList_lead_sublist (path : PathText) : path.lead.toList.Sublist path.text.toList := by
  have hpieces : ['/'].intercalate (path.pieces.map String.toList) = path.text.toList := by
    rw [pieces, splitAll_eq_splitOn]
    simp [Function.comp_def, List.intercalate_splitOn]
  have habove (passedOver : String → Bool) :
      ((path.pieces.reverse.dropWhile passedOver).tail.dropWhile passedOver).reverse.Sublist
        path.pieces := by
    refine List.reverse_sublist.mp ?_
    rw [List.reverse_reverse]
    exact (List.dropWhile_sublist _).trans
      ((List.tail_sublist _).trans (List.dropWhile_sublist _))
  rw [lead, String.toList_intercalate, ← hpieces]
  exact intercalate_sublist '/' ((habove _).map String.toList)

end Sections.PathText
