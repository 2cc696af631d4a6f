import Sections.Proofs.Fresh
import Sections.Proofs.Text.Numeral
import Sections.Slug

/-!
# Slugs

Slugs are made of slug characters and hyphens.  Every slug that is handed out below a parent is a
new one.  Suffixed slugs with different numbers are different, so one of them is always free.
-/

namespace Sections

/-- A text of slug characters and hyphens.  It may be empty, and hyphens may stand anywhere. -/
def IsSlugText (text : String) : Prop := ∀ c ∈ text.toList, isSlugChar c ∨ c = '-'

instance : DecidablePred IsSlugText := fun text =>
  decidable_of_iff (text.toList.all fun c => isSlugChar c || c == '-') (by simp [IsSlugText])

theorem mem_slugChars {started pending : Bool} {cs : List Char} {c : Char}
    (hc : c ∈ slugChars started pending cs) : isSlugChar c ∨ c = '-' := by
  induction cs generalizing started pending with
  | nil => simp [slugChars] at hc
  | cons first rest ih =>
      unfold slugChars at hc
      split at hc
      · next hfirst =>
        split at hc
        · rcases List.mem_cons.mp hc with rfl | hc
          · exact .inr rfl
          · rcases List.mem_cons.mp hc with rfl | hrest
            · exact .inl hfirst
            · exact ih hrest
        · rcases List.mem_cons.mp hc with rfl | hrest
          · exact .inl hfirst
          · exact ih hrest
      · exact ih hc

theorem isSlugText_slugify (title : String) : IsSlugText (slugify title) := by
  intro c hc
  rw [slugify, String.toList_ofList] at hc
  exact mem_slugChars hc

theorem IsSlugText.append {front back : String} (hfront : IsSlugText front)
    (hback : IsSlugText back) : IsSlugText (front ++ back) := by
  intro c hc
  rw [String.toList_append, List.mem_append] at hc
  rcases hc with hc | hc
  · exact hfront c hc
  · exact hback c hc

theorem isSlugText_decimal (number : Nat) : IsSlugText (toString number) := by
  intro c hc
  have hmem : c ∈ Nat.toDigits 10 number := by simpa using hc
  have hdigit := isDigit_of_mem_decimal hmem
  refine .inl ?_
  rw [isSlugChar, Bool.or_eq_true]
  exact .inr hdigit

namespace SiblingSlugs

theorem toList_suffixed (base : String) (suffix : Nat) :
    (suffixed base suffix).toList = base.toList ++ '-' :: Nat.toDigits 10 suffix := by
  simp [suffixed]

theorem suffixed_injective (base : String) : Function.Injective (suffixed base) := by
  intro first second h
  have hchars := congrArg String.toList h
  rw [toList_suffixed, toList_suffixed] at hchars
  exact eq_of_decimal_eq (by simpa using hchars)

theorem suffixed_ne_empty (base : String) (suffix : Nat) : suffixed base suffix ≠ "" := by
  intro hempty
  have hchars := congrArg String.toList hempty
  simp [toList_suffixed] at hchars

theorem suffixed_ne_self (base : String) (suffix : Nat) : suffixed base suffix ≠ base := by
  intro hself
  have hchars := congrArg String.toList hself
  simp [toList_suffixed] at hchars

theorem freeSuffix_spec (used : List String) (base : String) (first : Nat) :
    first ≤ freeSuffix used base first ∧ suffixed base (freeSuffix used base first) ∉ used ∧
      ∀ suffix, first ≤ suffix → suffix < freeSuffix used base first →
        suffixed base suffix ∈ used := by
  obtain ⟨free, hfree, hnotin⟩ := exists_fresh (suffixed_injective base) used first
  obtain ⟨found, hfound⟩ : ∃ found, (List.range' first (used.length + 1)).find?
      (fun suffix => !used.contains (suffixed base suffix)) = some found :=
    Option.isSome_iff_exists.mp <| List.find?_isSome.mpr ⟨free, hfree, by simpa using hnotin⟩
  rw [freeSuffix, hfound]
  obtain ⟨hpred, hmem, hleast⟩ := List.find?_range'_eq_some.mp hfound
  refine ⟨(List.mem_range'_1.mp hmem).1, by simpa using hpred, ?_⟩
  intro suffix hle hlt
  simpa using hleast suffix hle hlt

theorem claim_notMem (siblings : SiblingSlugs) (base : String) :
    (siblings.claim base).1 ∉ siblings.used := by
  unfold claim
  split
  · next h => simpa using h
  · exact (freeSuffix_spec siblings.used base _).2.1

theorem claim_of_notMem {siblings : SiblingSlugs} {base : String} (hfree : base ∉ siblings.used) :
    siblings.claim base = (base, { siblings with used := base :: siblings.used }) := by
  unfold claim
  rw [if_pos (by simpa using hfree)]

theorem exists_suffixed_of_mem {siblings : SiblingSlugs} {base : String}
    (hused : base ∈ siblings.used) :
    ∃ suffix, (siblings.claim base).1 = suffixed base suffix := by
  unfold claim
  rw [if_neg (by simpa using hused)]
  exact ⟨_, rfl⟩

theorem isSlugText_suffixed {base : String} (hbase : IsSlugText base) (suffix : Nat) :
    IsSlugText (suffixed base suffix) :=
  (hbase.append (by decide)).append (isSlugText_decimal suffix)

theorem used_claim (siblings : SiblingSlugs) (base : String) :
    (siblings.claim base).2.used = (siblings.claim base).1 :: siblings.used := by
  unfold claim
  split <;> rfl

end SiblingSlugs

end Sections
