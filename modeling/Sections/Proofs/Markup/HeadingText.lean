import Mathlib.Data.List.DropRight
import Mathlib.Data.List.Infix
import Sections.Markup.HeadingText
import Sections.Proofs.Text.Trim

/-!
# What is kept of inline markup

A scan over inline markup only leaves characters out.  It keeps every character that marks nothing,
and whatever stands behind a backslash, so any text can be written such that all of it is kept.
-/

namespace Sections

def inlineMarks : List Char := ['\\', '*', '_', '[', ']', '`', '<']

/-- Inline markup for a text: a backslash stands before each character that could mark something. -/
def escaped (cs : List Char) : List Char :=
  cs.flatMap fun c => if c ∈ inlineMarks then ['\\', c] else [c]

theorem visibleText_backslash (before : Option Char) (c : Char) (rest : List Char) :
    visibleText before ('\\' :: c :: rest) = c :: visibleText (some '\\') rest := by
  simp [visibleText]

theorem visibleText_cons {c : Char} (hc : c ∉ inlineMarks) (before : Option Char)
    (rest : List Char) : visibleText before (c :: rest) = c :: visibleText (some c) rest := by
  simp only [inlineMarks, List.mem_cons, List.not_mem_nil, or_false, not_or] at hc
  rw [visibleText.eq_def]
  simp [hc]

theorem visibleText_escaped (before : Option Char) (cs : List Char) :
    visibleText before (escaped cs) = cs := by
  induction cs generalizing before with
  | nil => simp [escaped, visibleText]
  | cons c cs ih =>
      rw [escaped, List.flatMap_cons, ← escaped]
      split
      · exact (visibleText_backslash before c (escaped cs)).trans (by rw [ih])
      · next hc => exact (visibleText_cons hc before (escaped cs)).trans (by rw [ih])

theorem afterDestination_suffix (depth : Nat) (cs : List Char) :
    afterDestination depth cs <:+ cs := by
  fun_induction afterDestination depth cs with
  | case1 => exact List.suffix_rfl
  | case2 depth rest ih => exact ih.trans (List.suffix_cons _ _)
  | case3 depth rest hle => exact List.suffix_cons _ _
  | case4 depth rest hle ih => exact ih.trans (List.suffix_cons _ _)
  | case5 depth c rest _ _ ih => exact ih.trans (List.suffix_cons _ _)

theorem afterTag_suffix (cs : List Char) : afterTag cs <:+ cs := by
  fun_induction afterTag cs with
  | case1 => exact List.suffix_rfl
  | case2 rest => exact List.suffix_cons _ _
  | case3 c rest _ ih => exact ih.trans (List.suffix_cons _ _)

theorem visibleText_sublist (before : Option Char) (cs : List Char) :
    (visibleText before cs).Sublist cs := by
  fun_induction visibleText before cs with
  | case1 => exact List.Sublist.refl _
  | case2 => exact List.nil_sublist _
  | case3 before c rest ih => exact (ih.cons_cons c).cons _
  | case4 before c rest _ _ ih => exact ih.cons c
  | case5 before c rest _ _ _ ih => exact (ih.trans (afterDestination_suffix 0 rest).sublist).cons c
  | case6 before c rest _ _ _ _ ih => exact (ih.trans (afterTag_suffix rest).sublist).cons c
  | case7 before c rest _ _ _ _ _ ih => exact ih.cons c
  | case8 before c rest _ _ _ _ _ ih => exact ih.cons_cons c

theorem trim_sublist (cs : List Char) : (trim cs).Sublist cs :=
  (List.rdropWhile_prefix isBlank _).sublist.trans (List.dropWhile_sublist isBlank)

/--
A text with a backslash before each character that could mark something is read as itself, up
to white space at its ends.  Whatever is read of any markup stands in it, in the same order.
-/
theorem escaped_text_is_kept (cs : List Char) :
    plainText (escaped cs) = trim cs ∧ (plainText cs).Sublist cs := by
  refine ⟨?_, ?_⟩
  · rw [plainText, visibleText_escaped]
  · exact (trim_sublist _).trans (visibleText_sublist none cs)

example : escaped "a_b [c](d) <e>".toList = "a\\_b \\[c\\](d) \\<e>".toList := by
  decide

end Sections
