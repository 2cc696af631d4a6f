import Sections.Edit
import Sections.Proofs.Markup.LineIndex
import Sections.Proofs.Outcome
import Sections.Proofs.Text.Boundary
import Sections.Proofs.Text.Bytes

/-!
# Splices

An edit at a span writes a text in the place of the spanned one.  What stands before and after the
span stays as it is, byte by byte, so the edit is undone by putting the spanned text back in the
place of what was written.
-/

namespace Sections

/-- What a span cuts a text into: what stands before it, in it and after it. -/
structure Span.Cuts (span : Span) (text front middle back : String) : Prop where
  joined : front ++ middle ++ back = text
  start_eq : front.utf8ByteSize = span.start
  stop_eq : front.utf8ByteSize + middle.utf8ByteSize = span.stop

namespace EditOp

/-- A deletion comes without a text, and every other operation with one. -/
def Fits (op : EditOp) (text : Option String) : Prop := op = .delete ↔ text = none

/-- What an operation puts in the place of a spanned text.  An insertion keeps it. -/
inductive Writes : EditOp → Option String → String → String → Prop
  | delete (spanned : String) : Writes .delete none spanned ""
  | insert (text spanned : String) : Writes .insert (some text) spanned (text ++ spanned)
  | replace (text spanned : String) : Writes .replace (some text) spanned text

variable {op : EditOp} {text : Option String}

theorem checkPayload_eq_ok_iff : op.checkPayload text = .ok () ↔ op.Fits text := by
  cases op <;> cases text <;> simp [checkPayload, Fits]

theorem exists_checkPayload_eq_error (hunfit : ¬ op.Fits text) :
    ∃ fault, op.checkPayload text = .error (.invalidEdit fault) := by
  cases op <;> cases text <;> simp_all [checkPayload, Fits]

theorem Fits.exists_writes (hfits : op.Fits text) (spanned : String) :
    ∃ written, op.Writes text spanned written := by
  cases text with
  | none =>
      obtain rfl : op = .delete := hfits.mpr rfl
      exact ⟨"", .delete spanned⟩
  | some text =>
      cases op with
      | delete => cases hfits.mp rfl
      | insert => exact ⟨text ++ spanned, .insert text spanned⟩
      | replace => exact ⟨text, .replace text spanned⟩

theorem Writes.fits {spanned written : String} (hwrites : op.Writes text spanned written) :
    op.Fits text := by
  cases hwrites <;> simp [Fits]

end EditOp

namespace Span

variable {span : Span} {text front middle back : String}

theorem split?_eq_some_iff_cuts : span.split? text =
      some (front.toList, middle.toList, back.toList) ↔ span.Cuts text front middle back := by
  rw [split?_eq_some_iff, ← utf8ByteSize_ofList, ← utf8ByteSize_ofList, String.ofList_toList,
    String.ofList_toList]
  constructor
  · rintro ⟨hjoined, hstart, hstop⟩
    exact ⟨String.toList_injective (by simpa using hjoined), hstart, hstop⟩
  · rintro ⟨rfl, hstart, hstop⟩
    exact ⟨by simp, hstart, hstop⟩

theorem slice_eq_ok_iff :
    span.slice text = .ok middle ↔ ∃ front back, span.Cuts text front middle back := by
  constructor
  · intro hslice
    unfold slice at hslice
    split at hslice
    · next front middle' back hsplit =>
        cases hslice
        refine ⟨.ofList front, .ofList back, split?_eq_some_iff_cuts.mp ?_⟩
        simpa using hsplit
    · cases hslice
  · rintro ⟨front, back, hcuts⟩
    rw [slice, split?_eq_some_iff_cuts.mpr hcuts]
    simp

theorem exists_cuts_iff_isOk :
    (∃ front middle back, span.Cuts text front middle back) ↔ (span.slice text).isOk := by
  constructor
  · rintro ⟨front, middle, back, hcuts⟩
    rw [slice_eq_ok_iff.mpr ⟨front, back, hcuts⟩]
    rfl
  · intro hok
    obtain ⟨middle, hslice⟩ := exists_ok_of_isOk hok
    obtain ⟨front, back, hcuts⟩ := slice_eq_ok_iff.mp hslice
    exact ⟨front, middle, back, hcuts⟩

theorem exists_cuts_iff : (∃ front middle back, span.Cuts text front middle back) ↔
    span.Within text.utf8ByteSize ∧ IsBoundary text span.start ∧ IsBoundary text span.stop := by
  rw [exists_cuts_iff_isOk, slice_isOk_iff]
  constructor
  · rintro ⟨hle, hstart, hstop⟩
    exact ⟨⟨hle, String.Pos.Raw.IsValid.le_rawEndPos hstop⟩, hstart, hstop⟩
  · rintro ⟨hwithin, hstart, hstop⟩
    exact ⟨hwithin.1, hstart, hstop⟩

end Span

namespace Span.Cuts

variable {span : Span} {text front middle back : String}

theorem take_bytesOf (hcuts : span.Cuts text front middle back) :
    (bytesOf text).take span.start = bytesOf front := by
  rw [← hcuts.joined, bytesOf_append, bytesOf_append, List.append_assoc]
  exact List.take_left' (by simpa using hcuts.start_eq)

theorem drop_bytesOf (hcuts : span.Cuts text front middle back) :
    (bytesOf text).drop span.stop = bytesOf back := by
  rw [← hcuts.joined, bytesOf_append]
  exact List.drop_left' (by simpa using hcuts.stop_eq)

end Span.Cuts

namespace SpanEdit

variable {edit : SpanEdit} {content front spanned back written : String}

theorem replacement_eq (hwrites : edit.op.Writes edit.text spanned written) :
    edit.replacement spanned.toList = written.toList := by
  obtain ⟨op, span, text⟩ := edit
  cases hwrites <;> simp [replacement]

theorem applyTo_of_cuts (hcuts : edit.span.Cuts content front spanned back)
    (hwrites : edit.op.Writes edit.text spanned written) :
    edit.applyTo content = .ok (front ++ written ++ back) := by
  rw [applyTo, EditOp.checkPayload_eq_ok_iff.mpr hwrites.fits,
    Span.split?_eq_some_iff_cuts.mpr hcuts]
  simp [bind, Except.bind, replacement_eq hwrites, pure, Except.pure, String.append_assoc]

theorem applyTo_of_not_fits (hunfit : ¬ edit.op.Fits edit.text) (content : String) :
    ∃ fault, edit.applyTo content = .error (.invalidEdit fault) := by
  obtain ⟨fault, hfault⟩ := EditOp.exists_checkPayload_eq_error hunfit
  refine ⟨fault, ?_⟩
  rw [applyTo, hfault]
  rfl

theorem applyTo_of_not_cuts (hfits : edit.op.Fits edit.text)
    (huncut : ¬ ∃ front middle back, edit.span.Cuts content front middle back) :
    edit.applyTo content =
      .error (.rangeOutOfBounds edit.span.start edit.span.stop content.utf8ByteSize) := by
  have hsplit : edit.span.split? content = none := by
    rw [Option.eq_none_iff_forall_ne_some]
    rintro ⟨front, middle, back⟩ hsplit
    refine huncut ⟨.ofList front, .ofList middle, .ofList back, ?_⟩
    exact Span.split?_eq_some_iff_cuts.mp (by simpa using hsplit)
  rw [applyTo, EditOp.checkPayload_eq_ok_iff.mpr hfits, hsplit]
  rfl

theorem inv_applyTo {result : String} (happly : edit.applyTo content = .ok result) :
    ∃ front spanned back written, edit.span.Cuts content front spanned back ∧
      edit.op.Writes edit.text spanned written ∧ result = front ++ written ++ back := by
  by_cases hfits : edit.op.Fits edit.text
  · by_cases hcut : ∃ front middle back, edit.span.Cuts content front middle back
    · obtain ⟨front, spanned, back, hcuts⟩ := hcut
      obtain ⟨written, hwrites⟩ := hfits.exists_writes spanned
      rw [applyTo_of_cuts hcuts hwrites] at happly
      cases happly
      exact ⟨front, spanned, back, written, hcuts, hwrites, rfl⟩
    · rw [applyTo_of_not_cuts hfits hcut] at happly
      cases happly
  · obtain ⟨fault, hfault⟩ := applyTo_of_not_fits hfits content
    rw [hfault] at happly
    cases happly

theorem applyTo_undo (hcuts : edit.span.Cuts content front spanned back) (written : String) :
    (SpanEdit.mk .replace ⟨edit.span.start, edit.span.start + written.utf8ByteSize⟩
      (some spanned)).applyTo (front ++ written ++ back) = .ok content := by
  have hwritten : Span.Cuts ⟨edit.span.start, edit.span.start + written.utf8ByteSize⟩
      (front ++ written ++ back) front written back :=
    ⟨rfl, hcuts.start_eq, by rw [hcuts.start_eq]⟩
  rw [applyTo_of_cuts hwritten (.replace spanned written), hcuts.joined]

/--
An edit of a text succeeds exactly if its payload fits and its span has both ends, in order, at
character boundaries of the text.  A payload that does not fit is reported first.  An edit that
succeeds keeps all bytes before and after its span and can be undone.
-/
theorem applyTo_is_local (edit : SpanEdit) (content : String) :
    ((edit.applyTo content).isOk ↔ edit.op.Fits edit.text ∧
      edit.span.Within content.utf8ByteSize ∧ IsBoundary content edit.span.start ∧
      IsBoundary content edit.span.stop) ∧
    (¬ edit.op.Fits edit.text → ∃ fault, edit.applyTo content = .error (.invalidEdit fault)) ∧
    (edit.op.Fits edit.text → (edit.applyTo content).isOk = false →
      edit.applyTo content =
        .error (.rangeOutOfBounds edit.span.start edit.span.stop content.utf8ByteSize)) ∧
    ∀ result, edit.applyTo content = .ok result →
      ∃ spanned written, edit.span.slice content = .ok spanned ∧
        edit.op.Writes edit.text spanned written ∧
        bytesOf result = (bytesOf content).take edit.span.start ++ bytesOf written ++
          (bytesOf content).drop edit.span.stop ∧
        result.utf8ByteSize + edit.span.length = content.utf8ByteSize + written.utf8ByteSize ∧
        (SpanEdit.mk .replace ⟨edit.span.start, edit.span.start + written.utf8ByteSize⟩
          (some spanned)).applyTo result = .ok content := by
  refine ⟨⟨?_, ?_⟩, fun hunfit => applyTo_of_not_fits hunfit content, ?_, ?_⟩
  · intro hok
    obtain ⟨result, happly⟩ := exists_ok_of_isOk hok
    obtain ⟨front, spanned, back, written, hcuts, hwrites, -⟩ := inv_applyTo happly
    exact ⟨hwrites.fits, Span.exists_cuts_iff.mp ⟨front, spanned, back, hcuts⟩⟩
  · rintro ⟨hfits, hspan⟩
    obtain ⟨front, spanned, back, hcuts⟩ := Span.exists_cuts_iff.mpr hspan
    obtain ⟨written, hwrites⟩ := hfits.exists_writes spanned
    rw [applyTo_of_cuts hcuts hwrites]
    rfl
  · intro hfits hfailed
    refine applyTo_of_not_cuts hfits ?_
    rintro ⟨front, spanned, back, hcuts⟩
    obtain ⟨written, hwrites⟩ := hfits.exists_writes spanned
    rw [applyTo_of_cuts hcuts hwrites] at hfailed
    cases hfailed
  · intro result happly
    obtain ⟨front, spanned, back, written, hcuts, hwrites, rfl⟩ := inv_applyTo happly
    refine ⟨spanned, written, Span.slice_eq_ok_iff.mpr ⟨front, back, hcuts⟩, hwrites, ?_, ?_,
      applyTo_undo hcuts written⟩
    · simp [hcuts.take_bytesOf, hcuts.drop_bytesOf]
    · have hlength := congrArg String.utf8ByteSize hcuts.joined
      simp only [String.utf8ByteSize_append, Span.length, ← hcuts.start_eq, ← hcuts.stop_eq]
        at hlength ⊢
      omega

example :
    (SpanEdit.mk .insert ⟨2, 3⟩ (some "ö")).applyTo "éa→" = .ok "éöa→" ∧
      (SpanEdit.mk .replace ⟨2, 5⟩ (some "a")).applyTo "éöa→" = .ok "éa→" := by
  decide

end SpanEdit

end Sections
