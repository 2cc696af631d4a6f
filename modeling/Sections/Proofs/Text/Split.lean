import Mathlib.Data.List.Infix
import Sections.Text.Split

/-!
# Splitting at separators

A text is split at the first separator if there is none in front of it, and at the last one if there
is none behind it.  Texts that are joined with a separator, and have none of their own, are what a
split at all separators gives back.
-/

namespace Sections

theorem splitFirst?_append_cons {separator : Char} {front : List Char} (h : separator ∉ front)
    (back : List Char) :
    splitFirst? separator (front ++ separator :: back) = some (front, back) := by
  induction front with
  | nil => simp [splitFirst?]
  | cons c front ih =>
      obtain ⟨hc, hfront⟩ : separator ≠ c ∧ separator ∉ front := by simpa using h
      simp [splitFirst?, Ne.symm hc, ih hfront]

theorem splitFirst?_eq_none {separator : Char} {cs : List Char} (h : separator ∉ cs) :
    splitFirst? separator cs = none := by
  induction cs with
  | nil => rfl
  | cons c cs ih =>
      obtain ⟨hc, hcs⟩ : separator ≠ c ∧ separator ∉ cs := by simpa using h
      simp [splitFirst?, Ne.symm hc, ih hcs]

theorem splitLast?_eq_none {separator : Char} {cs : List Char} (h : separator ∉ cs) :
    splitLast? separator cs = none := by
  induction cs with
  | nil => rfl
  | cons c cs ih =>
      obtain ⟨hc, hcs⟩ : separator ≠ c ∧ separator ∉ cs := by simpa using h
      simp [splitLast?, Ne.symm hc, ih hcs]

theorem splitLast?_append_cons {separator : Char} {back : List Char} (h : separator ∉ back)
    (front : List Char) :
    splitLast? separator (front ++ separator :: back) = some (front, back) := by
  induction front with
  | nil => simp [splitLast?, splitLast?_eq_none h]
  | cons c front ih => simp [splitLast?, ih]

theorem splitFirst?_cases (separator : Char) (cs : List Char) :
    (separator ∉ cs ∧ splitFirst? separator cs = none) ∨
      ∃ front back, cs = front ++ separator :: back ∧ separator ∉ front ∧
        splitFirst? separator cs = some (front, back) := by
  by_cases hmem : separator ∈ cs
  · obtain ⟨front, back, rfl, hfront⟩ := List.eq_append_cons_of_mem hmem
    exact .inr ⟨front, back, rfl, hfront, splitFirst?_append_cons hfront back⟩
  · exact .inl ⟨hmem, splitFirst?_eq_none hmem⟩

theorem splitLast?_cases (separator : Char) (cs : List Char) :
    (separator ∉ cs ∧ splitLast? separator cs = none) ∨
      ∃ front back, cs = front ++ separator :: back ∧ separator ∉ back ∧
        splitLast? separator cs = some (front, back) := by
  by_cases hmem : separator ∈ cs
  · obtain ⟨back, front, hreverse, hback⟩ :=
      List.eq_append_cons_of_mem (List.mem_reverse.mpr hmem)
    obtain rfl : cs = front.reverse ++ separator :: back.reverse := by
      simpa using congrArg List.reverse hreverse
    have hback' : separator ∉ back.reverse := by simpa using hback
    exact .inr ⟨_, _, rfl, hback', splitLast?_append_cons hback' _⟩
  · exact .inl ⟨hmem, splitLast?_eq_none hmem⟩

theorem splitDots?_append {front : List Char} (h : '.' ∉ front) (back : List Char) :
    splitDots? (front ++ '.' :: '.' :: back) = some (front, back) := by
  induction front with
  | nil => rfl
  | cons c front ih =>
      obtain ⟨hc, hfront⟩ : '.' ≠ c ∧ '.' ∉ front := by simpa using h
      rw [List.cons_append, splitDots?]
      · rw [ih hfront]
        rfl
      · rintro cs rfl
        exact absurd rfl hc

theorem front_eq_of_append_cons_eq {separator : Char} {front back front' back' : List Char}
    (h : separator ∉ front) (h' : separator ∉ front')
    (heq : front ++ separator :: back = front' ++ separator :: back') :
    front = front' ∧ back = back' := by
  have hsplit := splitFirst?_append_cons h back
  rw [heq, splitFirst?_append_cons h' back'] at hsplit
  simpa [eq_comm] using hsplit

theorem splitAll_eq_splitOn (separator : Char) (cs : List Char) :
    splitAll separator cs = cs.splitOn separator := by
  induction cs with
  | nil => rfl
  | cons c cs ih =>
      rw [splitAll, ih, List.splitOn_cons_eq_if_modifyHead]
      obtain ⟨piece, pieces, hsplit⟩ :=
        List.exists_cons_of_ne_nil (List.splitOn_ne_nil separator cs)
      by_cases hc : c = separator <;> simp [hc, hsplit]

theorem splitAll_append_cons {separator : Char} {front : List Char} (h : separator ∉ front)
    (back : List Char) :
    splitAll separator (front ++ separator :: back) = front :: splitAll separator back := by
  induction front with
  | nil => simp [splitAll]
  | cons c front ih =>
      obtain ⟨hc, hfront⟩ : separator ≠ c ∧ separator ∉ front := by simpa using h
      simp [splitAll, Ne.symm hc, ih hfront]

theorem splitAll_flatMap {separator : Char} {lines : List (List Char)}
    (h : ∀ line ∈ lines, separator ∉ line) :
    splitAll separator (lines.flatMap (· ++ [separator])) = lines ++ [[]] := by
  induction lines with
  | nil => rfl
  | cons line lines ih =>
      obtain ⟨hline, hlines⟩ := List.forall_mem_cons.mp h
      rw [List.flatMap_cons, List.append_assoc, List.singleton_append, splitAll_append_cons hline,
        ih hlines]
      rfl

theorem linesOf_flatMap {lines : List (List Char)} (h : ∀ line ∈ lines, '\n' ∉ line) :
    linesOf (lines.flatMap (· ++ ['\n'])) =
      lines.map fun line => if line.getLast? = some '\r' then line.dropLast else line := by
  simp [linesOf, splitAll_flatMap h]

theorem notMem_of_mem_splitOn {separator : Char} {cs piece : List Char}
    (hpiece : piece ∈ cs.splitOn separator) : separator ∉ piece := by
  induction cs generalizing piece with
  | nil => simp_all
  | cons c cs ih =>
      obtain ⟨first, rest, hsplit⟩ :=
        List.exists_cons_of_ne_nil (List.splitOn_ne_nil separator cs)
      rw [List.splitOn_cons_eq_if_modifyHead, hsplit] at hpiece
      rw [hsplit] at ih
      by_cases hc : c = separator
      · rw [if_pos (by simpa using hc), List.mem_cons] at hpiece
        rcases hpiece with rfl | hrest
        · exact List.not_mem_nil
        · exact ih hrest
      · rw [if_neg (by simpa using hc), List.modifyHead_cons, List.mem_cons] at hpiece
        rcases hpiece with rfl | hrest
        · exact List.not_mem_cons_of_ne_of_not_mem (Ne.symm hc) (ih List.mem_cons_self)
        · exact ih (List.mem_cons_of_mem first hrest)

theorem mem_intercalate {separator c : Char} {pieces : List (List Char)}
    (hc : c ∈ [separator].intercalate pieces) : c = separator ∨ ∃ piece ∈ pieces, c ∈ piece := by
  induction pieces with
  | nil => simp at hc
  | cons first rest ih =>
      cases rest with
      | nil => exact .inr ⟨first, List.mem_cons_self, by simpa using hc⟩
      | cons next rest =>
          rw [List.intercalate_cons_cons] at hc
          rcases List.mem_append.mp hc with hfirst | hrest
          · rcases List.mem_append.mp hfirst with hfirst | hseparator
            · exact .inr ⟨first, List.mem_cons_self, hfirst⟩
            · exact .inl (List.mem_singleton.mp hseparator)
          · rcases ih hrest with heq | ⟨piece, hpiece, hmem⟩
            · exact .inl heq
            · exact .inr ⟨piece, List.mem_cons_of_mem first hpiece, hmem⟩

theorem intercalate_sublist (separator : Char) {kept pieces : List (List Char)}
    (hkept : kept.Sublist pieces) :
    ([separator].intercalate kept).Sublist ([separator].intercalate pieces) := by
  induction hkept with
  | slnil => exact .refl _
  | @cons kept pieces first hkept ih =>
      cases pieces with
      | nil => simp_all
      | cons next rest =>
          rw [List.intercalate_cons_cons]
          exact ih.trans (List.sublist_append_right _ _)
  | @cons_cons kept pieces first hkept ih =>
      cases kept with
      | nil => cases pieces <;> simp
      | cons next rest =>
          cases pieces with
          | nil => simp at hkept
          | cons other others =>
              rw [List.intercalate_cons_cons, List.intercalate_cons_cons]
              exact ih.append_left _

theorem sublist_of_mem_splitOn {separator : Char} {cs piece : List Char}
    (hpiece : piece ∈ cs.splitOn separator) : piece.Sublist cs := by
  have hsub := intercalate_sublist separator (List.singleton_sublist.mpr hpiece)
  rwa [List.intercalate_splitOn, List.intercalate_singleton] at hsub

theorem utf8ByteSize_le_of_sublist {short long : String}
    (hsub : short.toList.Sublist long.toList) : short.utf8ByteSize ≤ long.utf8ByteSize := by
  have hchars {cs ds : List Char} (h : cs.Sublist ds) :
      (String.ofList cs).utf8ByteSize ≤ (String.ofList ds).utf8ByteSize := by
    induction h with
    | slnil => exact Nat.le_refl _
    | cons c h ih =>
        simp only [String.ofList_cons, String.utf8ByteSize_append]
        omega
    | cons_cons c h ih =>
        simp only [String.ofList_cons, String.utf8ByteSize_append]
        omega
  simpa using hchars hsub

end Sections
