import Sections.Proofs.Slug
import Sections.Proofs.Text.Runs

/-!
# Slugs as joined runs

The slug of a title is what the lower case title has in runs of slug characters, joined by single
hyphens.  A slug made in this way is its own slug.
-/

namespace Sections

/-- The longest runs of slug characters in a text, in order. -/
def slugRuns (cs : List Char) : List (List Char) :=
  (runsOf isSlugChar cs).filter fun run => run.all isSlugChar

/-- Slug characters, with single hyphens between some of them. -/
structure IsSlug (cs : List Char) : Prop where
  chars : ∀ c ∈ cs, isSlugChar c ∨ c = '-'
  head : cs.head? ≠ some '-'
  last : cs.getLast? ≠ some '-'
  single : cs.IsChain fun a b => a ≠ '-' ∨ b ≠ '-'

/-- Of a map to lower case slugs need only this: on ASCII it is the usual one. -/
def IsLowercase (lower : Char → List Char) : Prop := ∀ c, c.toNat < 0x80 → lower c = [c.toLower]

section

variable {started pending : Bool} {run rest cs : List Char} {runs : List (List Char)}

/-! ## Runs -/

theorem slugRuns_append (hrun : IsRun isSlugChar true run rest) :
    slugRuns (run ++ rest) = run :: slugRuns rest := by
  have hall : run.all isSlugChar = true := List.all_eq_true.mpr hrun.agree
  simp only [slugRuns, hrun.runsOf_append, List.filter_cons, hall, if_true]

theorem slugRuns_append_of_others (hrun : IsRun isSlugChar false run rest) :
    slugRuns (run ++ rest) = slugRuns rest := by
  obtain ⟨c, hc⟩ := List.exists_mem_of_ne_nil run hrun.ne_nil
  have hall : run.all isSlugChar = false := List.all_eq_false.mpr ⟨c, hc, by simp [hrun.agree c hc]⟩
  simp only [slugRuns, hrun.runsOf_append, List.filter_cons, hall, Bool.false_eq_true, if_false]

theorem runs_of_mem_slugRuns (cs : List Char) :
    ∀ run ∈ slugRuns cs, run ≠ [] ∧ ∀ c ∈ run, isSlugChar c := by
  intro run hrun
  obtain ⟨hmem, hall⟩ := List.mem_filter.mp hrun
  exact ⟨List.ne_nil_of_mem_splitBy hmem, List.all_eq_true.mp hall⟩

theorem hyphen_intercalate_cons (run : List Char) (runs : List (List Char)) :
    ['-'].intercalate (run :: runs) = run ++ runs.flatMap ('-' :: ·) := by
  induction runs generalizing run with
  | nil => simp
  | cons next runs ih => simp [List.intercalate_cons_cons, ih]

/-! ## The scan -/

theorem slugChars_append (hrun : ∀ c ∈ run, isSlugChar c) (rest : List Char) :
    slugChars true false (run ++ rest) = run ++ slugChars true false rest := by
  induction run with
  | nil => rfl
  | cons c run ih =>
      obtain ⟨hc, hrun⟩ := List.forall_mem_cons.mp hrun
      simp [slugChars, hc, ih hrun]

theorem slugChars_append_of_others (hne : run ≠ []) (hrun : ∀ c ∈ run, isSlugChar c = false)
    (rest : List Char) : slugChars started pending (run ++ rest) = slugChars started true rest := by
  induction run generalizing pending with
  | nil => contradiction
  | cons c run ih =>
      obtain ⟨hc, hrun⟩ := List.forall_mem_cons.mp hrun
      simp only [List.cons_append, slugChars, hc]
      cases run with
      | nil => rfl
      | cons next run => exact ih (List.cons_ne_nil _ _) hrun

theorem slugChars_append_run (hrun : IsRun isSlugChar true run rest) :
    slugChars started pending (run ++ rest) =
      (if started && pending then ['-'] else []) ++ run ++ slugChars true false rest := by
  obtain ⟨c, run, rfl⟩ := List.exists_cons_of_ne_nil hrun.ne_nil
  obtain ⟨hc, hchars⟩ := List.forall_mem_cons.mp hrun.agree
  cases started <;> cases pending <;> simp [slugChars, hc, slugChars_append hchars]

theorem slugChars_eq (cs : List Char) :
    (∀ pending, slugChars false pending cs = ['-'].intercalate (slugRuns cs)) ∧
      ∀ pending, (pending = false → ∀ c ∈ cs.head?, isSlugChar c = false) →
        slugChars true pending cs = (slugRuns cs).flatMap ('-' :: ·) := by
  induction cs using runs_induction isSlugChar with
  | nil => exact ⟨fun _ => rfl, fun _ _ => rfl⟩
  | append side run rest hrun ih =>
      obtain ⟨hfirst, hlater⟩ := ih
      cases side with
      | true =>
          have hrest := hlater false fun _ => hrun.ends
          rw [slugRuns_append hrun]
          refine ⟨?_, ?_⟩
          · intro pending
            rw [slugChars_append_run hrun, hrest, hyphen_intercalate_cons]
            rfl
          · intro pending hbetween
            obtain ⟨c, tail, rfl⟩ := List.exists_cons_of_ne_nil hrun.ne_nil
            obtain rfl : pending = true := by
              by_contra hpending
              have hother := hbetween (by simpa using hpending) c rfl
              simp [hrun.agree c List.mem_cons_self] at hother
            rw [slugChars_append_run hrun, hrest]
            rfl
      | false =>
          rw [slugRuns_append_of_others hrun]
          refine ⟨?_, ?_⟩
          · intro pending
            rw [slugChars_append_of_others hrun.ne_nil hrun.agree, hfirst]
          · intro pending _
            rw [slugChars_append_of_others hrun.ne_nil hrun.agree, hlater true (by simp)]

theorem slugifyWith_eq (lower : Char → List Char) (title : List Char) :
    slugifyWith lower title = ['-'].intercalate (slugRuns (title.flatMap lower)) :=
  (slugChars_eq _).1 false

/-! ## Joined runs -/

theorem bounds_of_isSlugChar {c : Char} (hc : isSlugChar c) :
    c.toNat < 0x80 ∧ c.toLower = c ∧ c ≠ '-' := by
  have hranges : (97 ≤ c.toNat ∧ c.toNat ≤ 122) ∨ (48 ≤ c.toNat ∧ c.toNat ≤ 57) := by
    simpa [isSlugChar, Char.le_def, UInt32.le_iff_toNat_le] using hc
  have hascii : c.toNat < 0x80 := by omega
  have hcodes : ∀ code < 0x80, isSlugChar (Char.ofNat code) →
      (Char.ofNat code).toLower = Char.ofNat code ∧ Char.ofNat code ≠ '-' := by decide
  have hsame := hcodes c.toNat hascii
  rw [Char.ofNat_toNat] at hsame
  exact ⟨hascii, hsame hc⟩

theorem isSlug_of_forall (hcs : ∀ c ∈ cs, isSlugChar c) : IsSlug cs := by
  have hother : ∀ c ∈ cs, c ≠ '-' := fun c hc => (bounds_of_isSlugChar (hcs c hc)).2.2
  refine ⟨fun c hc => .inl (hcs c hc), ?_, ?_, ?_⟩
  · intro hhead
    exact hother '-' (List.mem_of_head? hhead) rfl
  · intro hlast
    exact hother '-' (List.mem_of_getLast? hlast) rfl
  · exact (List.pairwise_of_forall_mem_list fun a ha _ _ => .inl (hother a ha)).isChain

theorem IsSlug.hyphen (hrun : ∀ c ∈ run, isSlugChar c) (hne : run ≠ []) (hcs : IsSlug cs)
    (hrest : cs ≠ []) : IsSlug (run ++ '-' :: cs) := by
  have hfront := isSlug_of_forall hrun
  refine ⟨?_, ?_, ?_, ?_⟩
  · intro c hc
    rcases List.mem_append.mp hc with hc | hc
    · exact hfront.chars c hc
    · rcases List.mem_cons.mp hc with rfl | hc
      · exact .inr rfl
      · exact hcs.chars c hc
  · rw [List.head?_append_of_ne_nil _ hne]
    exact hfront.head
  · rw [List.getLast?_append_of_ne_nil _ (List.cons_ne_nil _ _), List.getLast?_cons_of_ne_nil hrest]
    exact hcs.last
  · refine List.isChain_append.mpr ⟨hfront.single, List.isChain_cons.mpr ⟨?_, hcs.single⟩, ?_⟩
    · rintro c hc
      refine .inr ?_
      rintro rfl
      exact hcs.head hc
    · intro c hc _ _
      refine .inl ?_
      rintro rfl
      exact hfront.last hc

section

variable (hruns : ∀ run ∈ runs, run ≠ [] ∧ ∀ c ∈ run, isSlugChar c)
include hruns

theorem isSlugChar_of_mem_head?_intercalate :
    ∀ c ∈ (['-'].intercalate runs).head?, isSlugChar c := by
  cases runs with
  | nil => simp
  | cons run runs =>
      obtain ⟨hne, hrun⟩ := hruns run List.mem_cons_self
      rw [hyphen_intercalate_cons, List.head?_append_of_ne_nil _ hne]
      intro c hc
      exact hrun c (List.mem_of_head? hc)

theorem isSlug_intercalate : IsSlug (['-'].intercalate runs) := by
  induction runs with
  | nil => exact isSlug_of_forall (by simp)
  | cons run runs ih =>
      obtain ⟨⟨hne, hrun⟩, hruns⟩ := List.forall_mem_cons.mp hruns
      cases runs with
      | nil => simpa using isSlug_of_forall hrun
      | cons next runs =>
          have hrest : ['-'].intercalate (next :: runs) ≠ [] := by
            simp [hyphen_intercalate_cons, (hruns next List.mem_cons_self).1]
          rw [List.intercalate_cons_cons, List.append_assoc]
          exact (ih hruns).hyphen hrun hne hrest

theorem slugRuns_intercalate : slugRuns (['-'].intercalate runs) = runs := by
  induction runs with
  | nil => rfl
  | cons run runs ih =>
      obtain ⟨⟨hne, hrun⟩, hruns⟩ := List.forall_mem_cons.mp hruns
      cases runs with
      | nil =>
          have halone : IsRun isSlugChar true run [] := ⟨hne, hrun, by simp⟩
          have hsplit := slugRuns_append halone
          rw [List.append_nil] at hsplit
          rwa [List.intercalate_singleton]
      | cons next runs =>
          have hyphen : IsRun isSlugChar false ['-'] (['-'].intercalate (next :: runs)) :=
            ⟨List.cons_ne_nil _ _, by simp [isSlugChar], isSlugChar_of_mem_head?_intercalate hruns⟩
          have hfirst : IsRun isSlugChar true run (['-'] ++ ['-'].intercalate (next :: runs)) :=
            ⟨hne, hrun, fun c hc => by cases hc; decide⟩
          rw [List.intercalate_cons_cons, List.append_assoc, slugRuns_append hfirst,
            slugRuns_append_of_others hyphen, ih hruns]

end

theorem IsLowercase.flatMap_eq {lower : Char → List Char} (hlower : IsLowercase lower)
    (hcs : ∀ c ∈ cs, isSlugChar c ∨ c = '-') : cs.flatMap lower = cs := by
  induction cs with
  | nil => rfl
  | cons c cs ih =>
      obtain ⟨hc, hcs⟩ := List.forall_mem_cons.mp hcs
      have hkept : lower c = [c] := by
        rcases hc with hc | rfl
        · obtain ⟨hascii, hsame, -⟩ := bounds_of_isSlugChar hc
          rw [hlower c hascii, hsame]
        · exact hlower '-' (by decide)
      rw [List.flatMap_cons, hkept, ih hcs]
      rfl

theorem isSlug_slugifyWith (lower : Char → List Char) (title : List Char) :
    IsSlug (slugifyWith lower title) := by
  rw [slugifyWith_eq]
  exact isSlug_intercalate (runs_of_mem_slugRuns _)

theorem slugifyWith_slugifyWith {lower : Char → List Char} (hlower : IsLowercase lower)
    (title : List Char) :
    slugifyWith lower (slugifyWith lower title) = slugifyWith lower title := by
  rw [slugifyWith_eq lower (slugifyWith lower title),
    hlower.flatMap_eq (isSlug_slugifyWith lower title).chars, slugifyWith_eq,
    slugRuns_intercalate (runs_of_mem_slugRuns _)]

theorem isLowercase_lowercase : IsLowercase lowercase := by
  intro c hc
  have hdotted : c ≠ '\u0130' := by
    rintro rfl
    exact absurd hc (by decide)
  have hkelvin : c ≠ '\u212a' := by
    rintro rfl
    exact absurd hc (by decide)
  rw [lowercase, if_neg hdotted, if_neg hkelvin]

/--
For every map to lower case the slug of a title is what there is of slug characters in the
lower case title, run by run, joined by single hyphens.  It has no other hyphens, and is its own
slug.
-/
theorem slugify_joins_runs (title : String) :
    (∀ lower, IsLowercase lower →
      slugifyWith lower title.toList = ['-'].intercalate (slugRuns (title.toList.flatMap lower)) ∧
        IsSlug (slugifyWith lower title.toList) ∧
        slugifyWith lower (slugifyWith lower title.toList) = slugifyWith lower title.toList) ∧
      slugify title =
        String.ofList (['-'].intercalate (slugRuns (title.toList.flatMap lowercase))) ∧
      IsSlug (slugify title).toList ∧ slugify (slugify title) = slugify title := by
  refine ⟨?_, ?_, ?_, ?_⟩
  · intro lower hlower
    exact ⟨slugifyWith_eq lower title.toList, isSlug_slugifyWith lower title.toList,
      slugifyWith_slugifyWith hlower title.toList⟩
  · rw [slugify, slugifyWith_eq]
  · rw [slugify, String.toList_ofList]
    exact isSlug_slugifyWith lowercase title.toList
  · rw [slugify, slugify, String.toList_ofList,
      slugifyWith_slugifyWith isLowercase_lowercase title.toList]

theorem slug_of_dotted_capital :
    let lower : Char → List Char := fun c => if c = 'É' then ['é'] else lowercase c
    IsLowercase lower ∧
      slugifyWith lower "ÉTÉ: İSTANBUL 2".toList = "t-i-stanbul-2".toList ∧
      slugifyWith lower "t-i-stanbul-2".toList = "t-i-stanbul-2".toList := by
  intro lower
  have hlower : IsLowercase lower := by
    intro c hc
    have hacute : c ≠ 'É' := by
      rintro rfl
      exact absurd hc (by decide)
    exact (if_neg hacute).trans (isLowercase_lowercase c hc)
  obtain ⟨hall, -⟩ := slugify_joins_runs "ÉTÉ: İSTANBUL 2"
  obtain ⟨hjoined, -, hagain⟩ := hall lower hlower
  have hslug : slugifyWith lower "ÉTÉ: İSTANBUL 2".toList = "t-i-stanbul-2".toList := by
    rw [hjoined]
    decide
  rw [hslug] at hagain
  exact ⟨hlower, hslug, hagain⟩

example : slugRuns "  s p a c e s  ###".toList = ["s", "p", "a", "c", "e", "s"].map String.toList ∧
    slugify "S p a c e s  ###" = "s-p-a-c-e-s" := by
  decide

end

end Sections
