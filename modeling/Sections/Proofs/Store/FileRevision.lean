import Sections.Proofs.Text.Numeral
import Sections.Proofs.Text.Split
import Sections.Store.Folder

/-!
# Modification times and the revisions made of them

A commit dates its file later than it was dated before, whatever the clock says.  The revision of a
file is a row of fields, and each field can be read off it: the seconds end at the first point, the
nanoseconds and the length at the next hyphens, since neither has one of its own.
-/

namespace Sections

namespace Timestamp

variable {first second third : Timestamp}

theorem lt_iff : first < second ↔
    first.seconds < second.seconds ∨ first.seconds = second.seconds ∧ first.nanos < second.nanos :=
  Iff.rfl

theorem lt_trans (h : first < second) (h' : second < third) : first < third := by
  rw [lt_iff] at *
  omega

theorem ne_of_lt (h : first < second) : first ≠ second := by
  rintro rfl
  rw [lt_iff] at h
  omega

theorem lt_succ (time : Timestamp) : time < time.succ := by
  rw [lt_iff]
  unfold succ
  split
  · exact .inl (Int.lt_succ time.seconds)
  · exact .inr ⟨rfl, Nat.lt_succ_self time.nanos⟩

theorem lt_following (previous now : Timestamp) : previous < following (some previous) now := by
  unfold following
  by_cases hlater : previous < now
  · simpa only [if_pos hlater] using hlater
  · simpa only [if_neg hlater] using lt_succ previous

theorem nanos_succ_lt (time : Timestamp) : time.succ.nanos < nanosPerSecond := by
  unfold succ
  split
  · exact Nat.zero_lt_succ _
  · next hbelow => exact Nat.lt_of_not_le hbelow

theorem nanos_following_lt (previous : Option Timestamp) {now : Timestamp}
    (hnow : now.nanos < nanosPerSecond) : (following previous now).nanos < nanosPerSecond := by
  cases previous with
  | none => exact hnow
  | some previous =>
      unfold following
      by_cases hlater : previous < now
      · simpa only [if_pos hlater] using hnow
      · simpa only [if_neg hlater] using nanos_succ_lt previous

end Timestamp

theorem fingerprint_eq_iff {hash : TextHash} {text other : String} :
    fingerprint hash text = fingerprint hash other ↔ hash text = hash other := by
  constructor
  · intro h
    exact UInt64.toNat_inj.mp (eq_of_paddedHex_eq h)
  · intro h
    rw [fingerprint, fingerprint, h]

namespace Folder

theorem eq_of_revisionFor_eq {hash : TextHash} {text other : String} {modified later : Timestamp}
    (h : revisionFor hash text modified = revisionFor hash other later) :
    modified = later ∧ text.utf8ByteSize = other.utf8ByteSize ∧
      fingerprint hash text = fingerprint hash other := by
  have hfields : (toString modified.seconds).toList ++ '.' ::
        ((paddedDecimal 9 modified.nanos).toList ++ '-' ::
          (Nat.toDigits 10 text.utf8ByteSize ++ '-' :: (fingerprint hash text).toList)) =
      (toString later.seconds).toList ++ '.' ::
        ((paddedDecimal 9 later.nanos).toList ++ '-' ::
          (Nat.toDigits 10 other.utf8ByteSize ++ '-' :: (fingerprint hash other).toList)) := by
    simpa [revisionFor, Timestamp.render] using congrArg (fun revision => revision.token.toList) h
  have hpoint (number : Int) : '.' ∉ (toString number).toList := by
    intro hmem
    rcases isDigit_or_eq_hyphen_of_mem_int hmem with hdigit | hhyphen
    · exact absurd hdigit (by decide)
    · exact absurd hhyphen (by decide)
  have hhyphen (number : Nat) : '-' ∉ (paddedDecimal 9 number).toList := by
    intro hmem
    exact absurd (isDigit_of_mem_paddedDecimal hmem) (by decide)
  obtain ⟨hseconds, hfields⟩ := front_eq_of_append_cons_eq (hpoint _) (hpoint _) hfields
  obtain ⟨hnanos, hfields⟩ := front_eq_of_append_cons_eq (hhyphen _) (hhyphen _) hfields
  obtain ⟨hlength, hhash⟩ := front_eq_of_append_cons_eq (hyphen_notMem_decimal _)
    (hyphen_notMem_decimal _) hfields
  refine ⟨?_, eq_of_decimal_eq hlength, String.toList_inj.mp hhash⟩
  have hseconds' : modified.seconds = later.seconds :=
    eq_of_toString_int_eq (String.toList_inj.mp hseconds)
  have hnanos' : modified.nanos = later.nanos :=
    eq_of_paddedDecimal_eq (String.toList_inj.mp hnanos)
  cases modified
  cases later
  simp only at hseconds' hnanos'
  rw [hseconds', hnanos']

/--
A revision says all that it was made from: two files have the same one exactly if they agree in each
field, whatever the lengths of the fields and on whichever side of zero the seconds are.
-/
theorem revisionFor_eq_iff (hash : TextHash) (text other : String) (modified later : Timestamp) :
    revisionFor hash text modified = revisionFor hash other later ↔
      modified.seconds = later.seconds ∧ modified.nanos = later.nanos ∧
        text.utf8ByteSize = other.utf8ByteSize ∧
        fingerprint hash text = fingerprint hash other ∧ hash text = hash other := by
  constructor
  · intro h
    obtain ⟨htime, hlength, hfingerprint⟩ := eq_of_revisionFor_eq h
    exact ⟨congrArg Timestamp.seconds htime, congrArg Timestamp.nanos htime, hlength, hfingerprint,
      fingerprint_eq_iff.mp hfingerprint⟩
  · rintro ⟨hseconds, hnanos, hlength, hfingerprint, -⟩
    rw [revisionFor, revisionFor, Timestamp.render, Timestamp.render, hseconds, hnanos, hlength,
      hfingerprint]

end Folder

end Sections
