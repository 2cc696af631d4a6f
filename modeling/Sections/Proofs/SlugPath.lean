import Mathlib.Data.List.Infix
import Mathlib.Data.List.Lex
import Mathlib.Data.String.Basic
import Mathlib.Order.RelIso.Basic
import Sections.SlugPath

/-!
# Steps along paths

How a path relates to the paths directly below and above it.  In the order of paths, those that
extend a path stand right behind it.
-/

namespace Sections

theorem prefix_of_between {α : Type} [LinearOrder α] {stem middle last : List α}
    (hmiddle : stem < middle) (hlast : middle < last) (hstem : stem <+: last) :
    stem <+: middle := by
  induction stem generalizing middle last with
  | nil => exact List.nil_prefix
  | cons first stem ih =>
      cases middle with
      | nil => exact absurd hmiddle (List.not_lt_nil _)
      | cons next middle =>
          obtain ⟨tail, rfl⟩ := hstem
          rw [List.cons_append, List.cons_lt_cons_iff] at hlast
          rcases List.cons_lt_cons_iff.mp hmiddle with hfirst | ⟨rfl, hinner⟩
          · rcases hlast with hnext | ⟨rfl, -⟩
            · exact absurd hfirst hnext.asymm
            · exact absurd hfirst (lt_irrefl _)
          · rcases hlast with hnext | ⟨-, houter⟩
            · exact absurd hnext (lt_irrefl _)
            · rw [List.cons_prefix_cons]
              exact ⟨rfl, ih hinner houter (List.prefix_append _ _)⟩

namespace SlugPath

@[simp]
theorem parent_child (path : SlugPath) (slug : String) : (path.child slug).parent = path := by
  simp [parent, child]

@[simp]
theorem length_child (path : SlugPath) (slug : String) :
    (path.child slug).length = path.length + 1 := by
  simp [length, child]

theorem child_ne_root (path : SlugPath) (slug : String) : path.child slug ≠ root := by
  simp [child, root]

theorem child_injective {path other : SlugPath} {slug tail : String}
    (h : path.child slug = other.child tail) : path = other ∧ slug = tail := by
  cases path
  cases other
  simpa [child] using h

theorem eq_root_of_prefix {stem : SlugPath} (hstem : stem.segments <+: root.segments) :
    stem = root := by
  cases stem
  simpa [root] using hstem

theorem prefix_of_prefix_child {stem path : SlugPath} {slug : String}
    (hstem : stem.segments <+: (path.child slug).segments) (hne : stem ≠ path.child slug) :
    stem.segments <+: path.segments := by
  rcases List.prefix_concat_iff.mp hstem with heq | hshort
  · cases stem
    exact absurd (by simpa [child] using heq) hne
  · exact hshort

/-! ## Order -/

theorem segments_injective : Function.Injective segments := by
  rintro ⟨_⟩ ⟨_⟩ rfl
  rfl

instance : IsStrictTotalOrder SlugPath (· < ·) :=
  (RelEmbedding.preimage ⟨segments, segments_injective⟩ (· < ·)).isStrictTotalOrder

theorem not_lt_of_isPrefix {stem path : SlugPath} (hstem : stem.segments <+: path.segments) :
    ¬ path < stem :=
  hstem.le

theorem lt_of_isPrefix {stem path : SlugPath} (hstem : stem.segments <+: path.segments)
    (hne : stem ≠ path) : stem < path :=
  lt_of_le_of_ne (not_lt.mp (not_lt_of_isPrefix hstem)) (segments_injective.ne hne)

theorem parent_isPrefix (path : SlugPath) : path.parent.segments <+: path.segments :=
  List.dropLast_prefix _

theorem length_parent (path : SlugPath) : path.parent.length = path.length - 1 :=
  List.length_dropLast

theorem parent_lt {path : SlugPath} (hroot : path ≠ root) : path.parent < path := by
  refine lt_of_isPrefix path.parent_isPrefix ?_
  intro hself
  have hlength := path.length_parent
  rw [hself] at hlength
  have hnone : path.segments = [] :=
    List.eq_nil_of_length_eq_zero (by rw [length] at hlength; omega)
  exact hroot (segments_injective hnone)

theorem length_le_of_between {path other : SlugPath} (hother : path.parent < other)
    (hpath : other < path) : path.length ≤ other.length := by
  have hstem : path.parent.segments <+: other.segments :=
    prefix_of_between hother hpath path.parent_isPrefix
  have hlonger : path.parent.length < other.length := by
    refine lt_of_le_of_ne hstem.length_le fun hlength => ?_
    rw [segments_injective (hstem.eq_of_length hlength)] at hother
    exact irrefl_of (· < ·) _ hother
  rw [length_parent] at hlonger
  omega

end SlugPath

end Sections
