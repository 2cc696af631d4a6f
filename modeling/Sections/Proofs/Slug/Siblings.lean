import Sections.Proofs.Association
import Sections.Proofs.Slug

/-!
# The slugs of siblings

Siblings ask for slugs one after the other.  A slug that is in use gets the least number that makes
it a new one.  The counters that are kept for the numbers only pass over what is in use, so the
search from the counter ends where a search from one would, and what is handed out depends on the
slugs before it and on nothing else.
-/

namespace Sections

/-- The name that a slug gets where some names are taken. -/
inductive LeastFree (taken : String → Prop) (base : String) : String → Prop
  | own (hfree : ¬taken base) : LeastFree taken base base
  | numbered {suffix : Nat} (htaken : taken base) (hpos : 1 ≤ suffix)
    (hfree : ¬taken (SiblingSlugs.suffixed base suffix))
    (hleast : ∀ number, 1 ≤ number → number < suffix →
      taken (SiblingSlugs.suffixed base number)) :
    LeastFree taken base (SiblingSlugs.suffixed base suffix)

namespace LeastFree

variable {taken other : String → Prop} {base slug slug' : String}

theorem eq (h : LeastFree taken base slug) (h' : LeastFree other base slug')
    (hbase : taken base ↔ other base)
    (hsuffixed : ∀ suffix, taken (SiblingSlugs.suffixed base suffix) ↔
      other (SiblingSlugs.suffixed base suffix)) : slug = slug' := by
  cases h with
  | own hfree =>
      cases h' with
      | own => rfl
      | numbered htaken => exact absurd (hbase.mpr htaken) hfree
  | @numbered suffix htaken hpos hfree hleast =>
      cases h' with
      | own hfree' => exact absurd (hbase.mp htaken) hfree'
      | @numbered suffix' _ hpos' hfree' hleast' =>
          rcases Nat.lt_trichotomy suffix suffix' with hlt | rfl | hlt
          · exact absurd ((hsuffixed suffix).mpr (hleast' suffix hpos hlt)) hfree
          · rfl
          · exact absurd ((hsuffixed suffix').mp (hleast suffix' hpos' hlt)) hfree'

theorem eq_or (h : LeastFree taken base slug) :
    slug = base ∨ ∃ suffix, slug = SiblingSlugs.suffixed base suffix := by
  cases h with
  | own => exact .inl rfl
  | @numbered suffix => exact .inr ⟨suffix, rfl⟩

theorem free (h : LeastFree taken base slug) : ¬taken slug := by
  cases h with
  | own hfree => exact hfree
  | numbered _ _ hfree => exact hfree

theorem number_lt (h : LeastFree taken base slug) (h' : LeastFree other base slug')
    (hsubset : ∀ name, taken name → other name) (hslug : other slug) :
    ∃ number, slug' = SiblingSlugs.suffixed base number ∧ 1 ≤ number ∧
      (slug = base ∨ ∃ smaller, slug = SiblingSlugs.suffixed base smaller ∧ 1 ≤ smaller ∧
        smaller < number) := by
  cases h with
  | own hfree =>
      cases h' with
      | own hfree' => exact absurd hslug hfree'
      | @numbered number _ hpos' => exact ⟨number, rfl, hpos', .inl rfl⟩
  | @numbered smaller htaken hpos _ hleast =>
      cases h' with
      | own hfree' => exact absurd (hsubset base htaken) hfree'
      | @numbered number _ hpos' hfree' =>
          refine ⟨number, rfl, hpos', .inr ⟨smaller, rfl, hpos, ?_⟩⟩
          rcases Nat.lt_trichotomy smaller number with hlt | rfl | hlt
          · exact hlt
          · exact absurd hslug hfree'
          · exact absurd (hsubset _ (hleast number hpos' hlt)) hfree'

theorem number_le_length {names : List String} {number : Nat}
    (h : LeastFree (· ∈ names) base slug) (hslug : slug = SiblingSlugs.suffixed base number) :
    number ≤ names.length := by
  cases h with
  | own => exact absurd hslug.symm (SiblingSlugs.suffixed_ne_self base number)
  | @numbered suffix htaken hpos _ hleast =>
      obtain rfl : suffix = number := SiblingSlugs.suffixed_injective base hslug
      have hnodup : (base :: (List.range' 1 (suffix - 1)).map
          (SiblingSlugs.suffixed base)).Nodup := by
        rw [List.nodup_cons]
        refine ⟨?_, (List.nodup_range' 1).map (SiblingSlugs.suffixed_injective base)⟩
        intro hbase
        obtain ⟨other, -, hother⟩ := List.mem_map.mp hbase
        exact SiblingSlugs.suffixed_ne_self base other hother
      have hsubset : base :: (List.range' 1 (suffix - 1)).map (SiblingSlugs.suffixed base) ⊆
          names := by
        refine List.cons_subset.mpr ⟨htaken, ?_⟩
        intro name hname
        obtain ⟨other, hother, rfl⟩ := List.mem_map.mp hname
        rw [List.mem_range'_1] at hother
        exact hleast other hother.1 (by omega)
      have hlength := (hnodup.subperm hsubset).length_le
      simp only [List.length_cons, List.length_map, List.length_range'] at hlength
      omega

end LeastFree

namespace SiblingSlugs

variable {siblings after : SiblingSlugs} {used : List String} {base slug : String}

def nextFor (siblings : SiblingSlugs) (base : String) : Nat :=
  (siblings.nextSuffix.lookup base).getD 1

theorem claim_of_mem (hused : base ∈ siblings.used) :
    siblings.claim base =
      let suffix := freeSuffix siblings.used base (siblings.nextFor base)
      (suffixed base suffix, ⟨suffixed base suffix :: siblings.used,
        (base, suffix + 1) :: siblings.nextSuffix.filter fun entry => entry.1 != base⟩) := by
  unfold claim
  rw [if_neg (by simpa using hused)]
  rfl

/-! ## One call -/

/-- Trying one number after the other, from the first one given on, ends at the second one. -/
inductive Search (used : List String) (base : String) : Nat → Nat → Prop
  | found {number : Nat} (hfree : suffixed base number ∉ used) : Search used base number number
  | next {number last : Nat} (htaken : suffixed base number ∈ used)
    (hrest : Search used base (number + 1) last) : Search used base number last

/--
A call as the rounds that it takes.  A slug that is free is handed out as it is.  For another one
the numbers are tried from its counter on, and the counter comes to stand behind the one found.
-/
inductive Call (siblings : SiblingSlugs) (base : String) : String → SiblingSlugs → Prop
  | own (hfree : base ∉ siblings.used) :
    Call siblings base base { siblings with used := base :: siblings.used }
  | numbered {number : Nat} (htaken : base ∈ siblings.used)
    (hsearch : Search siblings.used base (siblings.nextFor base) number) :
    Call siblings base (suffixed base number) ⟨suffixed base number :: siblings.used,
      (base, number + 1) :: siblings.nextSuffix.filter fun entry => entry.1 != base⟩

theorem Search.unique {first last last' : Nat} (h : Search used base first last)
    (h' : Search used base first last') : last = last' := by
  induction h with
  | found hfree =>
      cases h' with
      | found => rfl
      | next htaken => exact absurd htaken hfree
  | next htaken _ ih =>
      cases h' with
      | found hfree => exact absurd htaken hfree
      | next _ hrest => exact ih hrest

theorem search_of_taken {first last : Nat} (hle : first ≤ last)
    (hfree : suffixed base last ∉ used)
    (htaken : ∀ number, first ≤ number → number < last → suffixed base number ∈ used) :
    Search used base first last := by
  obtain ⟨rounds, rfl⟩ := Nat.exists_eq_add_of_le hle
  clear hle
  induction rounds generalizing first with
  | zero => exact .found hfree
  | succ rounds ih =>
      rw [← Nat.add_assoc, Nat.add_right_comm] at hfree htaken ⊢
      refine .next (htaken first (Nat.le_refl first) (by omega)) (ih hfree ?_)
      intro number hle hlt
      exact htaken number (Nat.le_of_succ_le hle) hlt

theorem search_freeSuffix (used : List String) (base : String) (first : Nat) :
    Search used base first (freeSuffix used base first) := by
  obtain ⟨hle, hfree, htaken⟩ := freeSuffix_spec used base first
  exact search_of_taken hle hfree htaken

theorem call_claim (siblings : SiblingSlugs) (base : String) :
    Call siblings base (siblings.claim base).1 (siblings.claim base).2 := by
  by_cases hused : base ∈ siblings.used
  · rw [claim_of_mem hused]
    exact .numbered hused (search_freeSuffix siblings.used base (siblings.nextFor base))
  · rw [claim_of_notMem hused]
    exact .own hused

theorem Call.unique {slug' : String} {after' : SiblingSlugs} (h : Call siblings base slug after)
    (h' : Call siblings base slug' after') : slug = slug' ∧ after = after' := by
  cases h with
  | own hfree =>
      cases h' with
      | own => exact ⟨rfl, rfl⟩
      | numbered htaken => exact absurd htaken hfree
  | numbered htaken hsearch =>
      cases h' with
      | own hfree => exact absurd htaken hfree
      | numbered _ hsearch' =>
          obtain rfl := hsearch.unique hsearch'
          exact ⟨rfl, rfl⟩

theorem call_iff : Call siblings base slug after ↔ siblings.claim base = (slug, after) := by
  constructor
  · intro h
    obtain ⟨hslug, hafter⟩ := (call_claim siblings base).unique h
    exact Prod.ext hslug hafter
  · intro h
    have hcall := call_claim siblings base
    rwa [h] at hcall

/-! ## The counters -/

/-- The counters start at one and have passed over used names only. -/
structure Counted (siblings : SiblingSlugs) : Prop where
  pos : ∀ base, 1 ≤ siblings.nextFor base
  passed : ∀ base number, 1 ≤ number → number < siblings.nextFor base →
    suffixed base number ∈ siblings.used

theorem counted_empty : Counted {} :=
  ⟨fun _ => Nat.le_refl 1, fun _ _ hpos hlt => absurd hlt (Nat.not_lt.mpr hpos)⟩

theorem Counted.least (hcounted : siblings.Counted) (base : String) :
    ∀ number, 1 ≤ number → number < freeSuffix siblings.used base (siblings.nextFor base) →
      suffixed base number ∈ siblings.used := by
  intro number hpos hlt
  obtain ⟨-, -, hleast⟩ := freeSuffix_spec siblings.used base (siblings.nextFor base)
  by_cases hpassed : number < siblings.nextFor base
  · exact hcounted.passed base number hpos hpassed
  · exact hleast number (Nat.not_lt.mp hpassed) hlt

theorem Counted.leastFree (hcounted : siblings.Counted) (base : String) :
    LeastFree (· ∈ siblings.used) base (siblings.claim base).1 := by
  by_cases hused : base ∈ siblings.used
  · obtain ⟨hle, hfree, -⟩ := freeSuffix_spec siblings.used base (siblings.nextFor base)
    rw [claim_of_mem hused]
    exact .numbered hused (Nat.le_trans (hcounted.pos base) hle) hfree (hcounted.least base)
  · rw [claim_of_notMem hused]
    exact .own hused

theorem Counted.claim (hcounted : siblings.Counted) (base : String) :
    (siblings.claim base).2.Counted := by
  by_cases hused : base ∈ siblings.used
  · rw [claim_of_mem hused]
    obtain ⟨hle, -, -⟩ := freeSuffix_spec siblings.used base (siblings.nextFor base)
    have hpos := hcounted.pos base
    constructor
    case pos =>
      intro other
      by_cases hother : other = base
      · simp [nextFor, hother]
      · have hbeq : (other == base) = false := by simpa using hother
        simpa [nextFor, List.lookup_cons, hbeq, lookup_filter_ne hother] using hcounted.pos other
    case passed =>
      intro other number hnumber hlt
      by_cases hother : other = base
      · subst hother
        simp only [nextFor, List.lookup_cons_self, Option.getD_some] at hlt
        rcases Nat.lt_succ_iff_lt_or_eq.mp hlt with hless | rfl
        · exact List.mem_cons_of_mem _ (hcounted.least other number hnumber hless)
        · exact List.mem_cons_self
      · have hbeq : (other == base) = false := by simpa using hother
        refine List.mem_cons_of_mem _ (hcounted.passed other number hnumber ?_)
        simpa [nextFor, List.lookup_cons, hbeq, lookup_filter_ne hother] using hlt
  · rw [claim_of_notMem hused]
    exact ⟨hcounted.pos, fun other number hpos hlt =>
      List.mem_cons_of_mem _ (hcounted.passed other number hpos hlt)⟩

/-! ## A row of calls -/

def afterCalls (siblings : SiblingSlugs) (bases : List String) : SiblingSlugs :=
  bases.foldl (fun siblings base => (siblings.claim base).2) siblings

/-- The slugs that are handed out for some wanted ones, in order. -/
def handedOut (siblings : SiblingSlugs) : List String → List String
  | [] => []
  | base :: rest => (siblings.claim base).1 :: handedOut (siblings.claim base).2 rest

theorem afterCalls_concat (siblings : SiblingSlugs) (earlier : List String) (base : String) :
    siblings.afterCalls (earlier ++ [base]) = ((siblings.afterCalls earlier).claim base).2 := by
  simp [afterCalls]

theorem handedOut_append (siblings : SiblingSlugs) (front back : List String) :
    siblings.handedOut (front ++ back) =
      siblings.handedOut front ++ (siblings.afterCalls front).handedOut back := by
  induction front generalizing siblings with
  | nil => rfl
  | cons base front ih => simp [handedOut, afterCalls, ih]

theorem length_handedOut (siblings : SiblingSlugs) (bases : List String) :
    (siblings.handedOut bases).length = bases.length := by
  induction bases generalizing siblings with
  | nil => rfl
  | cons base rest ih => simp [handedOut, ih]

theorem take_handedOut (siblings : SiblingSlugs) (bases : List String) (count : Nat) :
    (siblings.handedOut bases).take count = siblings.handedOut (bases.take count) := by
  induction bases generalizing siblings count with
  | nil => simp [handedOut]
  | cons base rest ih =>
      cases count with
      | zero => rfl
      | succ count => simp [handedOut, ih]

theorem getElem?_handedOut {bases : List String} {place : Nat} (siblings : SiblingSlugs)
    (hplace : bases[place]? = some base) :
    (siblings.handedOut bases)[place]? =
      some ((siblings.afterCalls (bases.take place)).claim base).1 := by
  induction bases generalizing siblings place with
  | nil => simp at hplace
  | cons first rest ih =>
      cases place with
      | zero =>
          obtain rfl : first = base := by simpa using hplace
          rfl
      | succ place => exact ih (siblings.claim first).2 hplace

theorem used_afterCalls (siblings : SiblingSlugs) (bases : List String) :
    (siblings.afterCalls bases).used = (siblings.handedOut bases).reverse ++ siblings.used := by
  induction bases generalizing siblings with
  | nil => rfl
  | cons base rest ih =>
      have hrest := ih (siblings.claim base).2
      rw [used_claim] at hrest
      simpa [afterCalls, handedOut] using hrest

theorem Counted.afterCalls (hcounted : siblings.Counted) (bases : List String) :
    (siblings.afterCalls bases).Counted := by
  induction bases generalizing siblings with
  | nil => exact hcounted
  | cons base rest ih => exact ih (hcounted.claim base)

theorem mem_used_afterCalls {bases : List String} {name : String} :
    name ∈ (afterCalls {} bases).used ↔ name ∈ handedOut {} bases := by
  simp [used_afterCalls]

theorem leastFree_afterCalls (earlier : List String) (base : String) :
    LeastFree (· ∈ handedOut {} earlier) base ((afterCalls {} earlier).claim base).1 := by
  have hleast := (counted_empty.afterCalls earlier).leastFree base
  simpa only [mem_used_afterCalls] using hleast

/--
A call ends, with one result: the slug that is wanted if it was not handed out before, else that
slug with the least number that makes a new one.  So a number never exceeds that of the calls
before, and the numbers of one slug ascend.
-/
theorem call_hands_out_least_free (earlier : List String) (base : String) :
    ∃ slug,
      (∀ found after, Call (afterCalls {} earlier) base found after ↔
        found = slug ∧ after = afterCalls {} (earlier ++ [base])) ∧
      handedOut {} (earlier ++ [base]) = handedOut {} earlier ++ [slug] ∧
      slug ∉ handedOut {} earlier ∧
      LeastFree (· ∈ handedOut {} earlier) base slug ∧
      (∀ number, slug = suffixed base number → number ≤ earlier.length) ∧
      ∀ place : Nat, earlier[place]? = some base →
        ∃ former number, (handedOut {} earlier)[place]? = some former ∧
          slug = suffixed base number ∧ 1 ≤ number ∧
          (former = base ∨ ∃ smaller, former = suffixed base smaller ∧ 1 ≤ smaller ∧
            smaller < number) := by
  have hleast := leastFree_afterCalls earlier base
  refine ⟨((afterCalls {} earlier).claim base).1, ?_, ?_, hleast.free, hleast, ?_, ?_⟩
  · intro found after
    rw [call_iff, Prod.ext_iff, afterCalls_concat]
    exact and_congr eq_comm eq_comm
  · rw [handedOut_append]
    rfl
  · intro number hnumber
    simpa only [length_handedOut] using hleast.number_le_length hnumber
  · intro place hplace
    have hformer := getElem?_handedOut {} hplace
    have hsubset : ∀ name ∈ handedOut {} (earlier.take place), name ∈ handedOut {} earlier := by
      intro name hname
      rw [← take_handedOut] at hname
      exact List.mem_of_mem_take hname
    obtain ⟨number, hslug, hpos, hsmaller⟩ := (leastFree_afterCalls (earlier.take place)
      base).number_lt hleast hsubset (List.mem_of_getElem? hformer)
    exact ⟨_, number, hformer, hslug, hpos, hsmaller⟩

example : handedOut {} ["panel-2", "panel-2", "panel-2-1", "panel-2"] =
    ["panel-2", "panel-2-1", "panel-2-1-1", "panel-2-2"] := by decide

end SiblingSlugs

end Sections
