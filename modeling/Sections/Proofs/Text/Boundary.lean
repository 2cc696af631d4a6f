import Mathlib.Data.List.Infix
import Sections.Span

/-!
# Character boundaries

A text can be cut where a character starts or the text ends.  A span can be cut out exactly if it
has its ends in order and both are such boundaries.
-/

namespace Sections

def IsBoundary (text : String) (offset : Nat) : Prop := String.Pos.Raw.IsValid text ⟨offset⟩

section

variable {text : String} {offset other : Nat}

theorem utf8ByteSize_ofList (cs : List Char) :
    (String.ofList cs).utf8ByteSize = byteLength cs := by
  induction cs with
  | nil => rfl
  | cons c cs ih => simp [String.ofList_cons, String.utf8ByteSize_append, ih]

theorem isBoundary_iff_cutAt :
    IsBoundary text offset ↔ ∃ front back, cutAt offset text.toList = some (front, back) := by
  unfold IsBoundary
  rw [String.Pos.Raw.isValid_iff_exists_append]
  simp only [cutAt_eq_some_iff]
  constructor
  · rintro ⟨front, back, rfl, hoffset⟩
    refine ⟨front.toList, back.toList, by simp, ?_⟩
    rw [← utf8ByteSize_ofList, String.ofList_toList]
    exact (congrArg String.Pos.Raw.byteIdx hoffset).symm
  · rintro ⟨front, back, htext, rfl⟩
    refine ⟨.ofList front, .ofList back, ?_, ?_⟩
    · rw [← String.ofList_append, htext, String.ofList_toList]
    · rw [← utf8ByteSize_ofList]
      rfl

instance (text : String) (offset : Nat) : Decidable (IsBoundary text offset) :=
  decidable_of_iff (cutAt offset text.toList).isSome <| by
    rw [isBoundary_iff_cutAt, Option.isSome_iff_exists, Prod.exists]

theorem isBoundary_utf8ByteSize (text : String) : IsBoundary text text.utf8ByteSize := by
  rw [isBoundary_iff_cutAt]
  refine ⟨text.toList, [], cutAt_eq_some_iff.mpr ⟨List.append_nil _, ?_⟩⟩
  rw [← utf8ByteSize_ofList, String.ofList_toList]

theorem IsBoundary.max (hoffset : IsBoundary text offset) (hother : IsBoundary text other) :
    IsBoundary text (max offset other) := by
  rcases Nat.le_total offset other with hle | hle
  · rwa [Nat.max_eq_right hle]
  · rwa [Nat.max_eq_left hle]

theorem IsBoundary.min (hoffset : IsBoundary text offset) (hother : IsBoundary text other) :
    IsBoundary text (min offset other) := by
  rcases Nat.le_total offset other with hle | hle
  · rwa [Nat.min_eq_left hle]
  · rwa [Nat.min_eq_right hle]

end

theorem prefix_of_byteLength_le {cs front longer : List Char} (hfront : front <+: cs)
    (hlonger : longer <+: cs) (hlength : byteLength front ≤ byteLength longer) :
    front <+: longer := by
  rcases List.prefix_or_prefix_of_prefix hfront hlonger with hprefix | ⟨more, rfl⟩
  · exact hprefix
  · rw [byteLength_append] at hlength
    cases more with
    | nil => simp
    | cons c more =>
        have hpositive := c.utf8Size_pos
        simp only [byteLength_cons] at hlength
        omega

namespace Span

variable {span : Span} {text : String} {front middle back : List Char}

theorem split?_eq_some_iff : span.split? text = some (front, middle, back) ↔
    front ++ middle ++ back = text.toList ∧ byteLength front = span.start ∧
      byteLength front + byteLength middle = span.stop := by
  constructor
  · intro hsplit
    simp only [split?, Option.bind_eq_bind, Option.bind_eq_some_iff] at hsplit
    obtain ⟨⟨front', rest⟩, hfront, hsplit⟩ := hsplit
    by_cases hle : span.start ≤ span.stop
    case neg => simp [hle] at hsplit
    simp only [hle, if_true, Option.bind_eq_some_iff] at hsplit
    obtain ⟨⟨middle', back'⟩, hmiddle, hparts⟩ := hsplit
    obtain ⟨rfl, rfl, rfl⟩ : front' = front ∧ middle' = middle ∧ back' = back := by
      simpa using hparts
    obtain ⟨hjoined, hstart⟩ := cutAt_eq_some_iff.mp hfront
    obtain ⟨rfl, hlength⟩ := cutAt_eq_some_iff.mp hmiddle
    exact ⟨(List.append_assoc _ _ _).trans hjoined, hstart, by omega⟩
  · rintro ⟨hjoined, hstart, hstop⟩
    have hfront : cutAt span.start text.toList = some (front, middle ++ back) :=
      cutAt_eq_some_iff.mpr ⟨(List.append_assoc _ _ _).symm.trans hjoined, hstart⟩
    have hmiddle : cutAt (span.stop - span.start) (middle ++ back) = some (middle, back) :=
      cutAt_eq_some_iff.mpr ⟨rfl, by omega⟩
    have hle : span.start ≤ span.stop := by omega
    simp [split?, hfront, hle, hmiddle]

theorem slice_isOk_iff_split? :
    (span.slice text).isOk ↔
      ∃ front middle back, span.split? text = some (front, middle, back) := by
  unfold slice
  rcases span.split? text with _ | ⟨front, middle, back⟩ <;> simp [Except.isOk, Except.toBool]

theorem slice_isOk_iff :
    (span.slice text).isOk ↔
      span.start ≤ span.stop ∧ IsBoundary text span.start ∧ IsBoundary text span.stop := by
  simp only [slice_isOk_iff_split?, split?_eq_some_iff, isBoundary_iff_cutAt, cutAt_eq_some_iff]
  constructor
  · rintro ⟨front, middle, back, hjoined, hstart, hstop⟩
    refine ⟨by omega, ⟨front, middle ++ back, ?_, hstart⟩, front ++ middle, back, hjoined, ?_⟩
    · rw [← List.append_assoc, hjoined]
    · rw [byteLength_append, hstop]
  · rintro ⟨hle, ⟨front, rest, hfront, hstart⟩, longer, back, hlonger, hstop⟩
    obtain ⟨middle, rfl⟩ := prefix_of_byteLength_le ⟨rest, hfront⟩ ⟨back, hlonger⟩ (by omega)
    rw [byteLength_append] at hstop
    exact ⟨front, middle, back, hlonger, hstart, hstop⟩

end Span

end Sections
