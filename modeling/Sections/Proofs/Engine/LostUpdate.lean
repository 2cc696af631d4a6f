import Sections.Proofs.Engine.Preparation
import Sections.Proofs.Engine.Sharing

/-!
# No update is lost

An edit is made on the text that its client loaded, and saved for the revision that the client
expects; nothing compares the revision that was loaded.  The edit still replaces the very text it
was made on.  A revision that the store had handed out before the load is current at the save only
if no commit was made to the document since that revision was handed out, so the text of that
commit, the text loaded and the text replaced are the same.
-/

namespace Sections

namespace Sharing

variable {κ : Type} [DecidableEq κ] {sharing : Sharing κ} {shared : SharedStore κ} {client : κ}

theorem Coherent.inv_beginApply (coherent : Coherent sharing shared)
    (hidle : (shared.clients client).pending = none) {id : String} {edit : DocEdit}
    {expected : Revision} {pending : PendingEdit}
    (hpending :
      ((sharing.step shared (client, .beginApply id edit expected)).clients client).pending =
      some pending) :
    pending.id = id ∧ pending.edit = edit ∧ pending.expected = expected ∧
      shared.memory.get? id = some pending.loaded ∧
      edit.prepare (.ofText sharing.parse (sharing.options client) pending.loaded.text)
        pending.loaded.text = .ok pending.prepared := by
  simp only [Sharing.step, hidle, Engine.outcome_beginApply, engine, Memory.store, Memory.run_load,
    Function.update_self] at hpending
  cases hpayload : edit.op.checkPayload edit.text with
  | error fault => simp [hpayload, Except.toOption] at hpending
  | ok =>
      cases hget : shared.memory.get? id with
      | none => simp [hpayload, hget, Except.toOption] at hpending
      | some snapshot =>
          have hindex : _ = Except.ok (Index.ofText sharing.parse (sharing.options client)
              snapshot.text) :=
            (coherent.faithful client).fst_indexFor sharing.hash snapshot.text
          cases hprepare :
              edit.prepare (.ofText sharing.parse (sharing.options client) snapshot.text)
                snapshot.text with
          | error fault =>
              simp [hpayload, hget, hindex, hprepare, Except.bind, Except.map, Except.toOption]
                at hpending
          | ok prepared =>
              obtain rfl : ⟨id, edit, expected, snapshot, prepared⟩ = pending := by
                simpa [hpayload, hget, hindex, hprepare, Except.bind, Except.map, Except.toOption]
                  using hpending
              exact ⟨rfl, rfl, rfl, rfl, hprepare⟩

theorem inv_finishAnswer_ok {envelope : Envelope}
    (hok : sharing.finishAnswer shared client = some (.ok envelope)) :
    ∃ pending commit, (shared.clients client).pending = some pending ∧
      (Memory.save sharing.hash pending.id pending.prepared.updated pending.expected
        fun _ _ => unifiedPatch pending.loaded.text pending.prepared.updated).run.run
          shared.memory = (.ok commit, (sharing.step shared (client, .finishApply)).memory) ∧
      envelope.newRevision = commit.revision := by
  obtain ⟨pending, hpending, hanswer⟩ := Option.map_eq_some_iff.mp hok
  refine ⟨pending, ?_⟩
  have hmemory := (sharing.step_finishApply shared hpending).1
  rw [Engine.outcome_finishApply] at hanswer
  obtain ⟨commit, hcommit, rfl⟩ := inv_map_ok hanswer
  exact ⟨commit, hpending, Prod.ext hcommit hmemory.symm, rfl⟩

omit [DecidableEq κ] in
theorem Coherent.get?_eq_of_save {atLoad atSave : SharedStore κ} (hload : Coherent sharing atLoad)
    (hsave : Coherent sharing atSave) (hsuffix : atLoad.issues <:+ atSave.issues) {id : String}
    {loaded : Snapshot} {expected : Revision} (hget : atLoad.memory.get? id = some loaded)
    (hexpected : expected ∈ atLoad.handedOut)
    (hcurrent : ∀ current, atSave.memory.get? id = some current → current.revision = expected) :
    atSave.memory.get? id = some loaded ∧ loaded.revision = expected := by
  obtain ⟨newer, hissues⟩ := hsuffix
  have hledger : Memory.Ledger sharing.hash (newer ++ atLoad.issues) atSave.memory :=
    hissues ▸ hsave.ledger
  obtain ⟨current, hcurrent_get⟩ : ∃ current, atSave.memory.get? id = some current := by
    have hknown := hload.ledger.get?_eq id
    rw [hget] at hknown
    obtain ⟨issue, hissue, -⟩ := Option.map_eq_some_iff.mp hknown.symm
    rw [hledger.get?_eq, List.find?_append, hissue]
    cases newer.find? fun issue => issue.id == id <;> simp
  have hrevision := hcurrent current hcurrent_get
  have hsame := hload.ledger.get?_eq_of_revision_mem hledger hcurrent_get
    (hrevision.symm ▸ hexpected)
  obtain rfl : loaded = current := by simpa [hget] using hsame
  exact ⟨hcurrent_get, hrevision⟩

/--
No lost update.  A client loads for an edit of `id` after the steps `before`, steps of
other clients follow, and then the client saves and is told that the edit was
committed.  If the store had handed out the expected revision before the load, it had done
so once, for `id` and some text; this text is what the load returned, what the store still
held just before the save, and what the edit was spliced into.  The save changes no other
document.
-/
theorem committed_edit_replaces_expected_text (sharing : Sharing κ)
    (before between : List (κ × ClientStep)) (client : κ) (id : String) (edit : DocEdit)
    (expected : Revision) (envelope : Envelope) {atLoad atSave afterSave : SharedStore κ}
    (hbefore : atLoad = sharing.run before sharing.start)
    (hbetween : atSave = sharing.run between
      (sharing.step atLoad (client, .beginApply id edit expected)))
    (hafter : afterSave = sharing.step atSave (client, .finishApply))
    (hidle : (atLoad.clients client).pending = none)
    (hothers : ∀ step ∈ between, step.1 ≠ client)
    (hexpected : expected ∈ atLoad.handedOut)
    (hok : sharing.finishAnswer atSave client = some (.ok envelope)) :
    ∃ text span updated,
      ((Memory.load id).run.run atLoad.memory).1 = .ok ⟨text, expected⟩ ∧
      atSave.memory.get? id = some ⟨text, expected⟩ ∧
      atSave.issues.filter (fun issue => issue.revision = expected) = [⟨id, text, expected⟩] ∧
      resolveSpan (.ofText sharing.parse (sharing.options client) text) edit.selector
        text.utf8ByteSize = .ok span ∧
      (SpanEdit.mk edit.op span edit.text).applyTo text = .ok updated ∧
      afterSave.memory.get? id = some ⟨updated, envelope.newRevision⟩ ∧
      ∀ other, other ≠ id → afterSave.memory.get? other = atSave.memory.get? other := by
  have hload : Coherent sharing atLoad := hbefore ▸ (Coherent.start sharing).run before
  have hbegun := hload.step client (.beginApply id edit expected)
  have hsave : Coherent sharing atSave := hbetween ▸ hbegun.run between
  obtain ⟨pending, commit, hpending, hcommit, hnew⟩ := inv_finishAnswer_ok hok
  rw [hbetween, clients_run_of_forall_ne sharing between hothers] at hpending
  obtain ⟨rfl, rfl, rfl, hget, hprepare⟩ := hload.inv_beginApply hidle hpending
  obtain ⟨hcurrent, hrevision, hmemory⟩ := Memory.inv_save hcommit
  have hsuffix : atLoad.issues <:+ atSave.issues := by
    rw [hbetween]
    exact (sharing.suffix_issues_step _ _).trans (sharing.suffix_issues_run between _)
  obtain ⟨hheld, hloaded⟩ := hload.get?_eq_of_save hsave hsuffix hget hexpected hcurrent
  have hsnapshot : pending.loaded = ⟨pending.loaded.text, pending.expected⟩ := by rw [← hloaded]
  have hissue := hsave.ledger.issue_mem hheld
  obtain ⟨span, hspan, -, hsplice⟩ := DocEdit.inv_prepare hprepare
  refine ⟨pending.loaded.text, span, pending.prepared.updated, ?_, ?_, ?_, hspan, hsplice, ?_, ?_⟩
  · rw [← hsnapshot, Memory.run_load, hget]
  · rw [← hsnapshot, hheld]
  · simpa [hloaded] using hsave.ledger.numbered.filter_revision_eq hissue
  · rw [hafter, hmemory, Memory.get?_insert]
    simp [hnew, hrevision]
  · intro other hother
    rw [hafter, hmemory, Memory.get?_insert]
    simp [hother]

theorem rival_load_loses_no_update :
    let sharing : Sharing Bool := ⟨fun _ => 0, fun _ => .mk .document none [], fun _ => {}⟩
    let edit : DocEdit := ⟨.replace, .ofRange 0 5, some "World"⟩
    let expected := Memory.revisionFor sharing.hash 1 "Hello"
    let between : List (Bool × ClientStep) :=
      [(true, .insert "other" "x"), (true, .beginApply "doc" edit expected)]
    let atLoad := sharing.run [(true, .insert "doc" "Hello")] sharing.start
    let atSave := sharing.run between (sharing.step atLoad (false, .beginApply "doc" edit expected))
    let afterSave := sharing.step atSave (false, .finishApply)
    (atLoad.clients false).pending = none ∧ (∀ step ∈ between, step.1 ≠ false) ∧
      expected ∈ atLoad.handedOut ∧
      ∃ envelope, sharing.finishAnswer atSave false = some (.ok envelope) ∧
      ∃ text span updated,
        ((Memory.load "doc").run.run atLoad.memory).1 = .ok ⟨text, expected⟩ ∧
        atSave.memory.get? "doc" = some ⟨text, expected⟩ ∧
        atSave.issues.filter (fun issue => issue.revision = expected) = [⟨"doc", text, expected⟩] ∧
        resolveSpan (.ofText sharing.parse (sharing.options false) text) edit.selector
          text.utf8ByteSize = .ok span ∧
        (SpanEdit.mk edit.op span edit.text).applyTo text = .ok updated ∧
        afterSave.memory.get? "doc" = some ⟨updated, envelope.newRevision⟩ ∧
        ∀ other, other ≠ "doc" → afterSave.memory.get? other = atSave.memory.get? other := by
  intro sharing edit expected between atLoad atSave afterSave
  have hidle : (atLoad.clients false).pending = none := rfl
  have hothers : ∀ step ∈ between, step.1 ≠ false := by simp [between]
  have hexpected : expected ∈ atLoad.handedOut := by decide
  obtain ⟨envelope, hok⟩ : ∃ envelope, sharing.finishAnswer atSave false = some (.ok envelope) := by
    have hsaved : (sharing.finishAnswer atSave false).any Except.isOk = true := by decide
    obtain ⟨answer, hanswer, hisOk⟩ := (Option.any_eq_true _ _).mp hsaved
    cases answer with
    | error fault => cases hisOk
    | ok envelope => exact ⟨envelope, hanswer⟩
  exact ⟨hidle, hothers, hexpected, envelope, hok,
    committed_edit_replaces_expected_text sharing _ between false "doc" edit expected envelope
      rfl rfl rfl hidle hothers hexpected hok⟩

end Sharing

end Sections
