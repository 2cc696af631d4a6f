import Sections.Proofs.Slug
import Sections.Proofs.Text.Split
import Sections.Proofs.Text.Trim
import Sections.Selector

/-!
# Reading printed paths

The segments of a printed path stand between slashes.  If they are trimmed and have no slash then
the path is read as it was printed, up to its empty segments: between two slashes they cannot be
told from nothing.  Slug texts have none of the marks that a selector is read by.
-/

namespace Sections

theorem IsSlugText.bounds {text : String} (htext : IsSlugText text) {c : Char}
    (hc : c ∈ text.toList) : 45 ≤ c.toNat ∧ c.toNat ≤ 122 ∧ c ≠ '/' ∧ c ≠ '@' := by
  rcases htext c hc with hslug | rfl
  · have hranges : (97 ≤ c.toNat ∧ c.toNat ≤ 122) ∨ (48 ≤ c.toNat ∧ c.toNat ≤ 57) := by
      simpa [isSlugChar, Char.le_def, UInt32.le_iff_toNat_le] using hslug
    refine ⟨by omega, by omega, ?_, ?_⟩
    · rintro rfl
      exact absurd hranges (by decide)
    · rintro rfl
      exact absurd hranges (by decide)
  · decide

theorem isBlank_of_bounds {c : Char} (hlow : 45 ≤ c.toNat) (hhigh : c.toNat ≤ 122) :
    isBlank c = false := by
  simp [isBlank, inRanges, blankRanges]
  omega

theorem IsSlugText.slash_notMem {text : String} (htext : IsSlugText text) : '/' ∉ text.toList :=
  fun hmem => (htext.bounds hmem).2.2.1 rfl

theorem IsSlugText.isTrimmed {text : String} (htext : IsSlugText text) : IsTrimmed text.toList := by
  refine .of_forall ?_
  intro c hc
  obtain ⟨hlow, hhigh, -⟩ := htext.bounds hc
  exact isBlank_of_bounds hlow hhigh

namespace SlugPath

theorem toList_joined (path : SlugPath) :
    path.joined.toList = ['/'].intercalate (path.segments.map String.toList) := by
  simp [joined]

theorem mem_of_mem_joined {path : SlugPath} {c : Char} (hc : c ∈ path.joined.toList) :
    c = '/' ∨ ∃ segment ∈ path.segments, c ∈ segment.toList := by
  rw [toList_joined] at hc
  rcases mem_intercalate hc with hslash | ⟨piece, hpiece, hmem⟩
  · exact .inl hslash
  · obtain ⟨segment, hsegment, rfl⟩ := List.mem_map.mp hpiece
    exact .inr ⟨segment, hsegment, hmem⟩

theorem bounds_of_mem_joined {path : SlugPath}
    (hpath : ∀ segment ∈ path.segments, IsSlugText segment) {c : Char}
    (hc : c ∈ path.joined.toList) : 45 ≤ c.toNat ∧ c.toNat ≤ 122 ∧ c ≠ '@' := by
  rcases mem_of_mem_joined hc with rfl | ⟨segment, hsegment, hmem⟩
  · decide
  · obtain ⟨hlow, hhigh, -, hat⟩ := (hpath segment hsegment).bounds hmem
    exact ⟨hlow, hhigh, hat⟩

theorem splitAll_joined {path : SlugPath}
    (hslash : ∀ segment ∈ path.segments, '/' ∉ segment.toList) :
    splitAll '/' path.joined.toList =
      if path.segments = [] then [[]] else path.segments.map String.toList := by
  rw [splitAll_eq_splitOn, toList_joined]
  by_cases hnil : path.segments = []
  · simp [hnil]
  · have hpieces : ∀ piece ∈ path.segments.map String.toList, '/' ∉ piece := by
      simpa using hslash
    rw [if_neg hnil, List.splitOn_intercalate '/' hpieces (by simpa using hnil)]

theorem eq_of_joined_eq {path other : SlugPath}
    (hpath : ∀ segment ∈ path.segments, '/' ∉ segment.toList) (hne : path ≠ .root)
    (hother : ∀ segment ∈ other.segments, '/' ∉ segment.toList) (hne' : other ≠ .root)
    (h : path.joined = other.joined) : path = other := by
  have hsegments {path : SlugPath} (hne : path ≠ .root) : path.segments ≠ [] :=
    fun hnil => hne (congrArg SlugPath.mk hnil)
  have hsplit := splitAll_joined hpath
  rw [h, splitAll_joined hother, if_neg (hsegments hne), if_neg (hsegments hne')] at hsplit
  have heq := List.map_injective_iff.mpr (fun _ _ => String.toList_inj.mp) hsplit
  exact congrArg SlugPath.mk heq.symm

end SlugPath

namespace Selector

variable {path : SlugPath}

theorem readPath_joined (hslash : ∀ segment ∈ path.segments, '/' ∉ segment.toList)
    (htrimmed : ∀ segment ∈ path.segments, IsTrimmed segment.toList) :
    readPath path.joined.toList = ⟨path.segments.filter (· != "")⟩ := by
  have htrim : (path.segments.map String.toList).map trim = path.segments.map String.toList := by
    rw [List.map_map]
    exact List.map_congr_left fun segment hsegment => (htrimmed segment hsegment).trim_eq_self
  rw [readPath, SlugPath.splitAll_joined hslash]
  by_cases hnil : path.segments = []
  · simp [hnil, trim, trimLeft, trimRight]
  · have hempty : (fun segment : String => !segment.toList.isEmpty) = (· != "") := by
      funext segment
      rw [Bool.eq_iff_iff]
      simp
    rw [if_neg hnil, htrim, List.filter_map, List.map_map]
    simp [Function.comp_def, hempty]

theorem read_joined (hpath : ∀ segment ∈ path.segments, IsSlugText segment) :
    read path.joined = .ok (.ofPath ⟨path.segments.filter (· != "")⟩) := by
  have hbounds {c : Char} := SlugPath.bounds_of_mem_joined hpath (c := c)
  have htrim : trim path.joined.toList = path.joined.toList := by
    refine (IsTrimmed.of_forall ?_).trim_eq_self
    intro c hc
    exact isBlank_of_bounds (hbounds hc).1 (hbounds hc).2.1
  have hat : '@' ∉ path.joined.toList := fun hmem => (hbounds hmem).2.2 rfl
  have hhash : '#' ∉ path.joined.toList := fun hmem => absurd (hbounds hmem).1 (by decide)
  have hread : readPath path.joined.toList = ⟨path.segments.filter (· != "")⟩ :=
    readPath_joined (fun segment hsegment => (hpath segment hsegment).slash_notMem)
      (fun segment hsegment => (hpath segment hsegment).isTrimmed)
  rw [read, htrim, splitLast?_eq_none hat]
  simp only [pure_bind, splitFirst?_eq_none hhash, hread]
  rfl

end Selector

end Sections
