import Sections.Engine
import Sections.Proofs.Outcome

/-!
# Preparing an edit

An edit is prepared on a text by three steps that can fail.  Only a store finds that a revision is
not the current one: the steps before a save fail for reasons that a fresh read does not mend, a
selector that does not resolve, a span out of bounds, a payload that does not fit.
-/

namespace Sections

namespace DocEdit

variable {edit : DocEdit} {index : Index} {text : String}

theorem prepare_eq_ok {span : Span} {spanned updated : String}
    (hspan : resolveSpan index edit.selector text.utf8ByteSize = .ok span)
    (hslice : span.slice text = .ok spanned)
    (hsplice : (SpanEdit.mk edit.op span edit.text).applyTo text = .ok updated) :
    edit.prepare index text = .ok ⟨spanned, updated⟩ := by
  have hafter : (do
      let spanned ← span.slice text
      let updated ← (SpanEdit.mk edit.op span edit.text).applyTo text
      return PreparedEdit.mk spanned updated) = Except.ok ⟨spanned, updated⟩ := by
    rw [hslice, hsplice]
    rfl
  rw [prepare, hspan]
  exact hafter

theorem prepare_eq_error {fault : DocError}
    (hspan : resolveSpan index edit.selector text.utf8ByteSize = .error fault) :
    edit.prepare index text = .error fault := by
  rw [prepare, hspan]
  rfl

theorem inv_prepare {prepared : PreparedEdit} (h : edit.prepare index text = .ok prepared) :
    ∃ span, resolveSpan index edit.selector text.utf8ByteSize = .ok span ∧
      span.slice text = .ok prepared.spanned ∧
      (SpanEdit.mk edit.op span edit.text).applyTo text = .ok prepared.updated := by
  obtain ⟨span, hspan, h⟩ := inv_bind_ok h
  obtain ⟨spanned, hslice, h⟩ := inv_bind_ok h
  obtain ⟨updated, hsplice, h⟩ := inv_bind_ok h
  cases h
  exact ⟨span, hspan, hslice, hsplice⟩

end DocEdit

/-! ## Faults -/

variable {α β : Type}

def FailsForGood (answer : Except DocError α) : Prop :=
  ∀ fault, answer = .error fault → fault.isRetryable = false

namespace FailsForGood

theorem ok (value : α) : FailsForGood (.ok value : Except DocError α) := by
  intro fault h
  cases h

theorem error {fault : DocError} (h : fault.isRetryable = false) :
    FailsForGood (.error fault : Except DocError α) := by
  intro other hother
  cases hother
  exact h

theorem bind {answer : Except DocError α} {next : α → Except DocError β}
    (hanswer : FailsForGood answer) (hnext : ∀ value, FailsForGood (next value)) :
    FailsForGood (answer >>= next) := by
  cases answer with
  | error fault =>
      intro other hother
      exact hanswer other (by cases hother; rfl)
  | ok value => exact hnext value

theorem checked (span : Span) (length : Nat) : FailsForGood (span.checked length) := by
  refine bind ?_ fun _ => ok span
  unfold Span.validate
  split
  · exact ok ()
  · exact error rfl

theorem slice (span : Span) (text : String) : FailsForGood (span.slice text) := by
  unfold Span.slice
  split
  · exact ok _
  · exact error rfl

theorem resolveSpan (index : Index) (selector : Selector) (length : Nat) :
    FailsForGood (Sections.resolveSpan index selector length) := by
  unfold Sections.resolveSpan
  split
  · exact checked _ length
  · split
    · exact checked _ length
    · split
      · exact checked _ length
      · exact error rfl

theorem checkPayload (op : EditOp) (text : Option String) :
    FailsForGood (op.checkPayload text) := by
  unfold EditOp.checkPayload
  split
  · exact error rfl
  · exact error rfl
  · exact error rfl
  · exact ok ()

theorem applyTo (edit : SpanEdit) (content : String) : FailsForGood (edit.applyTo content) := by
  refine bind (checkPayload edit.op edit.text) ?_
  intro _
  split
  · exact ok _
  · exact error rfl

theorem prepare (edit : DocEdit) (index : Index) (text : String) :
    FailsForGood (edit.prepare index text) := by
  refine bind (resolveSpan index edit.selector text.utf8ByteSize) ?_
  intro span
  refine bind (slice span text) ?_
  intro spanned
  refine bind (applyTo ⟨edit.op, span, edit.text⟩ text) ?_
  intro updated
  exact ok (PreparedEdit.mk spanned updated)

end FailsForGood

end Sections
