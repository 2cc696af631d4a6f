import Mathlib.Data.List.DropRight
import Mathlib.Data.List.TakeWhile
import Sections.Text.Blank

/-!
# Trimmed texts

A text is trimmed if no white space stands at either end of it.  Trimming gives a trimmed text, and
leaves a trimmed text as it is.
-/

namespace Sections

structure IsTrimmed (cs : List Char) : Prop where
  head : ∀ c ∈ cs.head?, isBlank c = false
  last : ∀ c ∈ cs.getLast?, isBlank c = false

theorem trim_eq (cs : List Char) : trim cs = (cs.dropWhile isBlank).rdropWhile isBlank := rfl

theorem mem_of_mem_trim {cs : List Char} {c : Char} (hc : c ∈ trim cs) : c ∈ cs :=
  (List.dropWhile_sublist isBlank).mem ((List.rdropWhile_prefix isBlank _).mem hc)

theorem isTrimmed_trim (cs : List Char) : IsTrimmed (trim cs) := by
  refine ⟨?_, ?_⟩
  · intro c hc
    obtain ⟨tail, htail⟩ : trim cs <+: cs.dropWhile isBlank := List.rdropWhile_prefix _ _
    have hhead := List.head?_dropWhile_not isBlank cs
    rwa [← htail, List.head?_append, Option.mem_def.mp hc] at hhead
  · intro c hc
    have hne : trim cs ≠ [] := by
      rintro hnil
      simp [hnil] at hc
    obtain rfl : (trim cs).getLast hne = c := by
      simpa [List.getLast?_eq_some_getLast hne] using hc
    exact Bool.eq_false_iff.mpr (List.rdropWhile_last_not isBlank _ hne)

namespace IsTrimmed

variable {front back cs : List Char}

theorem trim_eq_self (h : IsTrimmed cs) : trim cs = cs := by
  have hleft : cs.dropWhile isBlank = cs := by
    cases cs with
    | nil => rfl
    | cons c cs => exact List.dropWhile_cons_of_neg (by simp [h.head c rfl])
  rw [trim_eq, hleft, List.rdropWhile_eq_self_iff]
  intro hne
  simp [h.last _ (List.getLast?_eq_some_getLast hne)]

theorem of_forall (h : ∀ c ∈ cs, isBlank c = false) : IsTrimmed cs :=
  ⟨fun c hc => h c (List.mem_of_head? hc), fun c hc => h c (List.mem_of_getLast? hc)⟩

theorem append_of_ne_nil (hfront : ∀ c ∈ front.head?, isBlank c = false) (hback : IsTrimmed back)
    (hne : back ≠ []) : IsTrimmed (front ++ back) := by
  refine ⟨?_, ?_⟩
  · intro c hc
    cases front with
    | nil => exact hback.head c hc
    | cons first front => exact hfront c hc
  · intro c hc
    rw [List.getLast?_append_of_ne_nil _ hne] at hc
    exact hback.last c hc

theorem append (hfront : IsTrimmed front) (hback : IsTrimmed back) : IsTrimmed (front ++ back) := by
  by_cases hne : back = []
  · simpa [hne] using hfront
  · exact append_of_ne_nil hfront.head hback hne

theorem intercalate {separator : Char} (hseparator : isBlank separator = false)
    {pieces : List (List Char)} (hpieces : ∀ piece ∈ pieces, IsTrimmed piece) :
    IsTrimmed ([separator].intercalate pieces) := by
  have hmark : IsTrimmed [separator] := of_forall (by simpa using hseparator)
  induction pieces with
  | nil => exact of_forall (by simp)
  | cons first rest ih =>
      obtain ⟨hfirst, hrest⟩ := List.forall_mem_cons.mp hpieces
      cases rest with
      | nil => simpa using hfirst
      | cons next rest =>
          rw [List.intercalate_cons_cons]
          exact (hfirst.append hmark).append (ih hrest)

end IsTrimmed

end Sections
