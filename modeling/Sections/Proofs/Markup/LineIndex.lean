import Sections.Markup.LineIndex

/-!
# Spans of source ranges

Wherever a range begins and ends, its span lies within the text.
-/

namespace Sections

def Span.Within (span : Span) (length : Nat) : Prop := span.start ≤ span.stop ∧ span.stop ≤ length

theorem Span.checked_eq (span : Span) (length : Nat) :
    span.checked length =
      if span.start ≤ span.stop ∧ span.stop ≤ length then .ok span
      else .error (.rangeOutOfBounds span.start span.stop length) := by
  unfold checked validate
  split <;> rfl

theorem Span.checked_of_within {span : Span} {length : Nat} (h : span.Within length) :
    span.checked length = .ok span := by
  rw [checked_eq, if_pos ⟨h.1, h.2⟩]

namespace LineIndex

variable {lines : LineIndex} {location : Location} {range : SourceRange}

theorem span?_eq_some_iff {span : Span} :
    lines.span? range = some span ↔
      (lines.offset? range.start).isSome ∧ (lines.offset? range.stop).isSome ∧
        lines.span range = span := by
  rw [span?, LineIndex.span, LineIndex.offset, LineIndex.offset]
  cases lines.offset? range.start <;> cases lines.offset? range.stop <;> simp

theorem offset_le_length (lines : LineIndex) (location : Location) :
    lines.offset location ≤ lines.length := by
  rw [offset, offset?]
  split
  · dsimp only
    split
    · exact Nat.min_le_right _ _
    · exact Nat.le_refl _
  · exact Nat.le_refl _

theorem span_within (lines : LineIndex) (range : SourceRange) :
    (lines.span range).Within lines.length :=
  ⟨Nat.le_max_right _ _,
    Nat.max_le.mpr ⟨lines.offset_le_length range.stop, lines.offset_le_length range.start⟩⟩

theorem start_span_le_length (lines : LineIndex) (range : SourceRange) :
    (lines.span range).start ≤ lines.length :=
  lines.offset_le_length range.start

end LineIndex

end Sections
