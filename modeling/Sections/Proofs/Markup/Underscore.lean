import Sections.Proofs.Markup.HeadingText
import Sections.Proofs.Text.Runs

/-!
# Underscores inside words

An underscore that stands alone inside a word is part of the word.  Where several stand side by
side, none of them is kept.
-/

namespace Sections

/-- Letters, digits and underscores, with no underscore at either end. -/
structure IsWord (cs : List Char) : Prop where
  chars : ∀ c ∈ cs, isAlphanumeric c ∨ c = '_'
  head : ∀ c ∈ cs.head?, isAlphanumeric c
  last : ∀ c ∈ cs.getLast?, isAlphanumeric c

instance : DecidablePred IsWord := fun cs =>
  decidable_of_iff ((cs.all fun c => isAlphanumeric c || c == '_') ∧ cs.head?.all isAlphanumeric ∧
      cs.getLast?.all isAlphanumeric) <| by
    simp only [List.all_eq_true, Bool.or_eq_true, beq_iff_eq, Option.all_eq_true]
    exact ⟨fun ⟨hchars, hhead, hlast⟩ => ⟨hchars, hhead, hlast⟩,
      fun hword => ⟨hword.chars, hword.head, hword.last⟩⟩

structure IsWordFrom (before : Option Char) (cs : List Char) : Prop where
  chars : ∀ c ∈ cs, isAlphanumeric c ∨ c = '_'
  head : cs.head? = some '_' → before.any isAlphanumeric
  last : ∀ c ∈ cs.getLast?, isAlphanumeric c

def isUnderscore (c : Char) : Bool := c == '_'

def isLongRun (run : List Char) : Bool := ['_', '_'].isPrefixOf run

/-- A text without its runs of more than one underscore. -/
def withoutLongRuns (cs : List Char) : List Char :=
  ((runsOf isUnderscore cs).filter fun run => !isLongRun run).flatten

/-! ## Characters of words -/

theorem inRanges_eq_false {ranges others : List (Nat × Nat)} {c : Char}
    (hapart : ∀ range ∈ ranges, ∀ other ∈ others, range.2 < other.1 ∨ other.2 < range.1)
    (hc : inRanges ranges c) : inRanges others c = false := by
  obtain ⟨range, hrange, hbounds⟩ := List.any_eq_true.mp hc
  refine List.any_eq_false.mpr ?_
  intro other hother hinside
  have hdisjoint := hapart range hrange other hother
  simp only [Bool.and_eq_true, decide_eq_true_eq] at hbounds hinside
  omega

theorem isBlank_of_isAlphanumeric {c : Char} (hc : isAlphanumeric c) : isBlank c = false := by
  unfold isAlphanumeric at hc
  split at hc
  · next hascii =>
      have hcodes : ∀ code < 0x80, (Char.ofNat code).isAlphanum →
          isBlank (Char.ofNat code) = false := by decide
      have hblank := hcodes c.toNat hascii
      rw [Char.ofNat_toNat] at hblank
      exact hblank hc
  · exact inRanges_eq_false (by decide +kernel) hc

theorem notMem_inlineMarks {c : Char} (hc : isAlphanumeric c) : c ∉ inlineMarks := by
  intro hmark
  have hmarks : inlineMarks.any isAlphanumeric = false := by decide
  exact List.any_eq_false.mp hmarks c hmark hc

section

variable {before : Option Char} {side : Bool} {run rest cs : List Char}

/-! ## Runs -/

theorem IsRun.eq_underscore (hrun : IsRun isUnderscore true run rest) : ∀ c ∈ run, c = '_' := by
  intro c hc
  simpa [isUnderscore] using hrun.agree c hc

theorem IsRun.ne_underscore (hrun : IsRun isUnderscore false run rest) : ∀ c ∈ run, c ≠ '_' := by
  intro c hc
  simpa [isUnderscore] using hrun.agree c hc

theorem IsRun.head?_eq (hrun : IsRun isUnderscore true run rest) : run.head? = some '_' := by
  rw [List.head?_eq_some_head hrun.ne_nil, hrun.eq_underscore _ (List.head_mem _)]

theorem IsRun.getLast?_eq (hrun : IsRun isUnderscore true run rest) :
    run.getLast? = some '_' := by
  rw [List.getLast?_eq_some_getLast hrun.ne_nil, hrun.eq_underscore _ (List.getLast_mem _)]

theorem IsRun.one_or_more (hrun : IsRun isUnderscore true run rest) :
    run = ['_'] ∨ ∃ more, run = '_' :: '_' :: more ∧ ∀ c ∈ more, c = '_' := by
  obtain ⟨c, tail, rfl⟩ := List.exists_cons_of_ne_nil hrun.ne_nil
  obtain ⟨rfl, htail⟩ := List.forall_mem_cons.mp hrun.eq_underscore
  cases tail with
  | nil => exact .inl rfl
  | cons next more =>
      obtain ⟨rfl, hmore⟩ := List.forall_mem_cons.mp htail
      exact .inr ⟨more, rfl, hmore⟩

theorem IsRun.isLongRun_eq_false (hrun : IsRun isUnderscore false run rest) :
    isLongRun run = false := by
  cases run with
  | nil => rfl
  | cons c run =>
      simp [isLongRun, List.isPrefixOf, (hrun.ne_underscore c List.mem_cons_self).symm]

theorem withoutLongRuns_append (hrun : IsRun isUnderscore side run rest) :
    withoutLongRuns (run ++ rest) =
      (if isLongRun run then [] else run) ++ withoutLongRuns rest := by
  rw [withoutLongRuns, hrun.runsOf_append, List.filter_cons, withoutLongRuns]
  cases isLongRun run <;> rfl

theorem withoutLongRuns_sublist (cs : List Char) : (withoutLongRuns cs).Sublist cs := by
  have hsublist := (List.filter_sublist (l := runsOf isUnderscore cs)
    (p := fun run => !isLongRun run)).flatten
  rwa [runsOf, List.flatten_splitBy] at hsublist

theorem IsRun.isChain_iff (hrun : IsRun isUnderscore side run rest) :
    (run.IsChain fun a b => a ≠ '_' ∨ b ≠ '_') ↔ isLongRun run = false := by
  cases side with
  | false =>
      have hchain : run.IsChain fun a b => a ≠ '_' ∨ b ≠ '_' :=
        (List.pairwise_of_forall_mem_list fun a ha _ _ => .inl (hrun.ne_underscore a ha)).isChain
      exact iff_of_true hchain hrun.isLongRun_eq_false
  | true =>
      rcases hrun.one_or_more with rfl | ⟨more, rfl, -⟩
      · exact iff_of_true (List.isChain_singleton _) rfl
      · simp [isLongRun]

theorem withoutLongRuns_eq_self_iff (cs : List Char) :
    withoutLongRuns cs = cs ↔ cs.IsChain fun a b => a ≠ '_' ∨ b ≠ '_' := by
  induction cs using runs_induction isUnderscore with
  | nil => simp [withoutLongRuns, runsOf]
  | append side run rest hrun ih =>
      have hboundary : ∀ a ∈ run.getLast?, ∀ b ∈ rest.head?, a ≠ '_' ∨ b ≠ '_' := by
        intro a ha b hb
        cases side with
        | false => exact .inl (hrun.ne_underscore a (List.mem_of_getLast? ha))
        | true => exact .inr (by simpa [isUnderscore] using hrun.ends b hb)
      rw [withoutLongRuns_append hrun, List.isChain_append, hrun.isChain_iff]
      cases isLongRun run with
      | true =>
          have hshorter := (withoutLongRuns_sublist rest).length_le
          have hlength := List.length_pos_of_ne_nil hrun.ne_nil
          refine iff_of_false ?_ (by simp)
          intro hsame
          have hsame := congrArg List.length hsame
          simp only [if_true, List.nil_append, List.length_append] at hsame
          omega
      | false => simpa [ih] using fun _ => hboundary

/-! ## The scan -/

theorem visibleText_underscore (before : Option Char) (rest : List Char) :
    visibleText before ('_' :: rest) =
      if marksEmphasis '_' before rest.head? then visibleText (some '_') rest
      else '_' :: visibleText (some '_') rest := by
  rw [visibleText.eq_def]
  simp

theorem marksEmphasis_of_beside {after : Option Char}
    (hbeside : before = some '_' ∨ after = some '_') : marksEmphasis '_' before after = true := by
  have hblank : isBlank '_' = false := by decide
  have hword : isAlphanumeric '_' = false := by decide
  rcases hbeside with rfl | rfl <;> simp [marksEmphasis, hblank, hword]

theorem visibleText_lone_underscore (hbefore : before.any isAlphanumeric)
    (hafter : rest.head?.any isAlphanumeric) :
    visibleText before ('_' :: rest) = '_' :: visibleText (some '_') rest := by
  have hinside : marksEmphasis '_' before rest.head? = false := by
    simp [marksEmphasis, hbefore, hafter]
  rw [visibleText_underscore, hinside]
  rfl

theorem visibleText_further_underscores (hrun : ∀ c ∈ run, c = '_') (rest : List Char) :
    visibleText (some '_') (run ++ rest) = visibleText (some '_') rest := by
  induction run with
  | nil => rfl
  | cons c run ih =>
      obtain ⟨rfl, hrest⟩ := List.forall_mem_cons.mp hrun
      rw [List.cons_append, visibleText_underscore, if_pos, ih hrest]
      exact marksEmphasis_of_beside (.inl rfl)

theorem visibleText_many_underscores (hrun : ∀ c ∈ run, c = '_') (before : Option Char)
    (rest : List Char) :
    visibleText before ('_' :: '_' :: run ++ rest) = visibleText (some '_') rest := by
  have hmany : ∀ c ∈ '_' :: run, c = '_' := List.forall_mem_cons.mpr ⟨rfl, hrun⟩
  rw [List.cons_append, visibleText_underscore, if_pos, visibleText_further_underscores hmany]
  exact marksEmphasis_of_beside (.inr rfl)

theorem visibleText_letters (hne : run ≠ []) (hrun : ∀ c ∈ run, isAlphanumeric c)
    (before : Option Char) (rest : List Char) :
    visibleText before (run ++ rest) = run ++ visibleText run.getLast? rest := by
  induction run generalizing before with
  | nil => contradiction
  | cons c run ih =>
      obtain ⟨hc, hrun⟩ := List.forall_mem_cons.mp hrun
      rw [List.cons_append, visibleText_cons (notMem_inlineMarks hc)]
      cases run with
      | nil => rfl
      | cons next run =>
          rw [ih (List.cons_ne_nil _ _) hrun, List.getLast?_cons_cons]
          rfl

/-! ## Words -/

theorem IsWord.isWordFrom (hword : IsWord cs) : IsWordFrom none cs := by
  refine ⟨hword.chars, ?_, hword.last⟩
  intro hhead
  exact absurd (hword.head '_' hhead) (by decide)

namespace IsWordFrom

theorem behind (hword : IsWordFrom before (run ++ rest)) (hrun : IsRun isUnderscore side run rest) :
    IsWordFrom run.getLast? rest := by
  obtain ⟨hfront, hback⟩ := List.forall_mem_append.mp hword.chars
  refine ⟨hback, ?_, ?_⟩
  · intro hhead
    obtain rfl : side = false := by simpa [isUnderscore] using hrun.ends '_' hhead
    have hmem := List.getLast_mem hrun.ne_nil
    rw [List.getLast?_eq_some_getLast hrun.ne_nil]
    exact (hfront _ hmem).resolve_right (hrun.ne_underscore _ hmem)
  · intro c hc
    refine hword.last c ?_
    rw [List.getLast?_append, Option.mem_def.mp hc]
    rfl

theorem between (hword : IsWordFrom before (run ++ rest))
    (hrun : IsRun isUnderscore true run rest) :
    before.any isAlphanumeric ∧ rest.head?.any isAlphanumeric := by
  refine ⟨?_, ?_⟩
  · refine hword.head ?_
    rw [List.head?_append_of_ne_nil _ hrun.ne_nil]
    exact hrun.head?_eq
  · cases rest with
    | nil =>
        have hlast := hword.last
        rw [List.append_nil] at hlast
        exact absurd (hlast '_' hrun.getLast?_eq) (by decide)
    | cons c rest =>
        have hc : c ≠ '_' := by simpa [isUnderscore] using hrun.ends c rfl
        exact (hword.chars c (by simp)).resolve_right hc

theorem visibleText_run (hword : IsWordFrom before (run ++ rest))
    (hrun : IsRun isUnderscore side run rest) :
    visibleText before (run ++ rest) =
      (if isLongRun run then [] else run) ++ visibleText run.getLast? rest := by
  cases side with
  | false =>
      have hletters : ∀ c ∈ run, isAlphanumeric c := fun c hc =>
        (hword.chars c (List.mem_append_left _ hc)).resolve_right (hrun.ne_underscore c hc)
      rw [visibleText_letters hrun.ne_nil hletters, hrun.isLongRun_eq_false]
      rfl
  | true =>
      rw [hrun.getLast?_eq]
      rcases hrun.one_or_more with rfl | ⟨more, rfl, hmore⟩
      · obtain ⟨hbefore, hafter⟩ := hword.between hrun
        exact visibleText_lone_underscore hbefore hafter
      · exact visibleText_many_underscores hmore before rest

theorem visibleText_eq (hword : IsWordFrom before cs) :
    visibleText before cs = withoutLongRuns cs := by
  induction cs using runs_induction isUnderscore generalizing before with
  | nil => simp [visibleText, withoutLongRuns, runsOf]
  | append side run rest hrun ih =>
      rw [hword.visibleText_run hrun, withoutLongRuns_append hrun, ih (hword.behind hrun)]

end IsWordFrom

theorem plainText_eq_withoutLongRuns (hword : IsWord cs) : plainText cs = withoutLongRuns cs := by
  have hblank : ∀ c ∈ visibleText none cs, isBlank c = false := by
    intro c hc
    rcases hword.chars c ((visibleText_sublist none cs).mem hc) with hc | rfl
    · exact isBlank_of_isAlphanumeric hc
    · decide
  rw [plainText, (IsTrimmed.of_forall hblank).trim_eq_self]
  exact hword.isWordFrom.visibleText_eq

/--
Of a word all is kept but the runs of more than one underscore.  So a word is read as it
stands exactly if no two underscores of it stand side by side.
-/
theorem lone_underscores_are_literal (cs : List Char) (hword : IsWord cs) :
    plainText cs = withoutLongRuns cs ∧
      (plainText cs = cs ↔ cs.IsChain fun a b => a ≠ '_' ∨ b ≠ '_') := by
  rw [plainText_eq_withoutLongRuns hword]
  exact ⟨rfl, withoutLongRuns_eq_self_iff cs⟩

theorem snake_word_loses_long_run :
    IsWord "snake_case__é_2".toList ∧
      plainText "snake_case__é_2".toList = "snake_caseé_2".toList := by
  have hword : IsWord "snake_case__é_2".toList := by decide +kernel
  obtain ⟨hkept, -⟩ := lone_underscores_are_literal _ hword
  exact ⟨hword, hkept.trans (by decide)⟩

/-- Two underscores side by side inside a word are taken for marks of emphasis. -/
theorem double_underscore_is_lost :
    IsWord "a__b".toList ∧ plainText "a__b".toList ≠ "a__b".toList := by
  have hword : IsWord "a__b".toList := by decide +kernel
  refine ⟨hword, ?_⟩
  rw [plainText_eq_withoutLongRuns hword]
  decide

end

end Sections
