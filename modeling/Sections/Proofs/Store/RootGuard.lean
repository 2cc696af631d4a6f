import Sections.Proofs.Files.Directories
import Sections.Store.RootGuard

/-!
# What the guard lets pass

The guard looks at the nearest thing that is there at or above the path of a document.  What it lets
pass is inside the root as far as that goes.
-/

namespace Sections.RootGuard

open FileTree

variable {guard : RootGuard} {tree : FileTree} {id : String} {path : PathText}

theorem findSome?_reverse_range {α : Type} {answer : Nat → Option α} {count : Nat} {found : α}
    (h : (List.range count).reverse.findSome? answer = some found) :
    ∃ number < count, answer number = some found ∧
      ∀ later, number < later → later < count → answer later = none := by
  induction count with
  | zero => simp at h
  | succ count ih =>
      rw [List.range_succ, List.reverse_append, List.reverse_singleton, List.singleton_append,
        List.findSome?_cons] at h
      cases hlast : answer count with
      | some value =>
          rw [hlast] at h
          exact ⟨count, Nat.lt_succ_self count, hlast.trans h, by omega⟩
      | none =>
          rw [hlast] at h
          obtain ⟨number, hnumber, hanswer, hlater⟩ := ih h
          refine ⟨number, by omega, hanswer, ?_⟩
          intro later hnext hbound
          rcases Nat.lt_succ_iff_lt_or_eq.mp hbound with hless | rfl
          · exact hlater later hnext hless
          · exact hlast

theorem eq_of_resolve (hresolve : guard.resolve tree id = .ok path) :
    isLexicallySafe id ∧ path = .below guard.root id := by
  unfold resolve at hresolve
  split at hresolve
  · cases hresolve
  · next hsafe =>
      refine ⟨by simpa using hsafe, ?_⟩
      dsimp only at hresolve
      split at hresolve
      · split at hresolve
        · cases hresolve
          rfl
        · cases hresolve
      · cases hresolve
        rfl

theorem inside_of_resolve (hresolve : guard.resolve tree id = .ok path) {place : Place}
    (hfirst : path.ancestors.findSome? (fun ancestor => (tree.locate [] ancestor).toOption) =
      some place) : guard.root <+: place := by
  obtain ⟨hsafe, rfl⟩ := eq_of_resolve hresolve
  unfold resolve at hresolve
  simp only [hsafe, hfirst] at hresolve
  by_cases hinside : guard.root.isPrefixOf place
  · exact List.isPrefixOf_iff_prefix.mp hinside
  · simp [hinside] at hresolve

theorem resolve_of_first {place : Place} (hsafe : isLexicallySafe id)
    (hfirst : (PathText.below guard.root id).ancestors.findSome?
      (fun ancestor => (tree.locate [] ancestor).toOption) = some place)
    (hinside : guard.root <+: place) : guard.resolve tree id = .ok (.below guard.root id) := by
  have hfront : guard.root.isPrefixOf place := List.isPrefixOf_iff_prefix.mpr hinside
  simp [resolve, hsafe, hfirst, hfront]

theorem resolve_of_inside {place : Place} (hsafe : isLexicallySafe id)
    (hlocate : tree.locate [] (.below guard.root id) = .ok place) (hinside : guard.root <+: place) :
    guard.resolve tree id = .ok (.below guard.root id) :=
  resolve_of_first hsafe (by simp [PathText.ancestors, hlocate, Except.toOption]) hinside

theorem resolve_of_outside {place : Place}
    (hlocate : tree.locate [] (.below guard.root id) = .ok place)
    (houtside : ¬ guard.root <+: place) :
    guard.resolve tree id = .error (.invalidDocumentId id) := by
  have hfront : ¬ guard.root.isPrefixOf place := fun h =>
    houtside (List.isPrefixOf_iff_prefix.mp h)
  simp [resolve, PathText.ancestors, hlocate, Except.toOption, hfront]

theorem locate_top (tree : FileTree) : tree.locate [] (.ofNames true []) = .ok [] := by
  rw [locate_ofNames _ _ (by simp), walk]
  rfl

theorem findSome?_ancestors {α : Type} (answer : PathText → Option α) {above : List String}
    {name : String} (habsolute : path.isAbsolute) (hnames : path.names = above ++ [name])
    (hself : answer path = none) :
    path.ancestors.findSome? answer =
      (List.range (above.length + 1)).reverse.findSome? fun count =>
        answer (.ofNames true (path.names.take count)) := by
  rw [PathText.ancestors, List.findSome?_cons, hself, List.findSome?_map, habsolute, hnames,
    List.length_append]
  rfl

theorem nearest_of_resolve {above : List String} {name : String}
    (hresolve : guard.resolve tree id = .ok path)
    (hmissing : ∀ place, tree.locate [] path ≠ .ok place) (hnames : path.names = above ++ [name]) :
    ∃ front missing base, above = front ++ missing ∧ Disk.Nearest tree front missing base ∧
      guard.root <+: base := by
  have habsolute : path.isAbsolute := by
    rw [(eq_of_resolve hresolve).2]
    exact PathText.isAbsolute_below guard.root id
  have hself : (tree.locate [] path).toOption = none := by
    cases hlocate : tree.locate [] path with
    | error fault => rfl
    | ok place => exact absurd hlocate (hmissing place)
  have hlead (count : Nat) (hcount : count < above.length + 1) :
      path.names.take count = above.take count := by
    rw [hnames, List.take_append_of_le_length (Nat.lt_succ_iff.mp hcount)]
  have hancestors := findSome?_ancestors (fun ancestor => (tree.locate [] ancestor).toOption)
    habsolute hnames hself
  obtain ⟨base, hfirst⟩ : ∃ base, path.ancestors.findSome?
      (fun ancestor => (tree.locate [] ancestor).toOption) = some base := by
    rw [← Option.isSome_iff_exists, hancestors, List.findSome?_isSome_iff]
    exact ⟨0, by simp, by simp [locate_top, Except.toOption]⟩
  have hinside := inside_of_resolve hresolve hfirst
  rw [hancestors] at hfirst
  obtain ⟨count, hcount, hbase, hlater⟩ := findSome?_reverse_range hfirst
  rw [hlead count hcount] at hbase
  refine ⟨above.take count, above.drop count, base, (List.take_append_drop count above).symm,
    ⟨inv_toOption_some hbase, ?_⟩, hinside⟩
  intro more hne hmore place hlocate
  have hlength := hmore.length_le
  rw [List.length_drop] at hlength
  have hpositive := List.length_pos_iff.mpr hne
  have hlonger : above.take (count + more.length) = above.take count ++ more := by
    rw [List.take_add, ← List.prefix_iff_eq_take.mp hmore]
  have hnone := hlater (count + more.length) (by omega) (by omega)
  rw [hlead _ (by omega), hlonger, hlocate] at hnone
  cases hnone

end Sections.RootGuard
