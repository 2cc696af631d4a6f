import Sections.Proofs.Store.Ledger

/-!
# Runs of a store in memory

Inserts, saves and loads follow each other in any order.  The journal of a run has the store as the
run leaves it, and every revision that the store has handed out.  Whatever the run, the journal is a
ledger: each revision names one commit, and what a save answers can be read off the ledger.
-/

namespace Sections.Memory

inductive Request where
  | insert (id text : String)
  | save (id text : String) (expected : Revision) (writePatch : PatchWriter)
  | load (id : String)

/-- A store with what it has issued, the last issue first. -/
structure Journal where
  memory : Memory := {}
  issues : List Issue := []

namespace Journal

def perform (hash : TextHash) (journal : Journal) : Request → Journal
  | .insert id text =>
    let inserted := journal.memory.insert hash id text
    ⟨inserted.2, ⟨id, text, inserted.1⟩ :: journal.issues⟩
  | .save id text expected writePatch =>
    let saved := (save hash id text expected writePatch).run.run journal.memory
    ⟨saved.2,
      match saved.1 with
      | .ok commit => ⟨id, text, commit.revision⟩ :: journal.issues
      | .error _ => journal.issues⟩
  | .load id => ⟨((load id).run.run journal.memory).2, journal.issues⟩

def run (hash : TextHash) (requests : List Request) : Journal :=
  requests.foldl (perform hash) {}

def Balanced (hash : TextHash) (journal : Journal) : Prop :=
  Ledger hash journal.issues journal.memory

theorem Balanced.perform {hash : TextHash} {journal : Journal} (balanced : Balanced hash journal)
    (request : Request) : Balanced hash (journal.perform hash request) := by
  cases request with
  | insert id text => exact Ledger.insert balanced id text
  | save id text expected writePatch => exact Ledger.save balanced id text expected writePatch
  | load id =>
      have hmemory : ((Memory.load id).run.run journal.memory).2 = journal.memory := by
        rw [run_load]
      change Ledger hash journal.issues ((Memory.load id).run.run journal.memory).2
      rw [hmemory]
      exact balanced

theorem balanced_run (hash : TextHash) (requests : List Request) :
    Balanced hash (run hash requests) := by
  have hfold {journal : Journal} (balanced : Balanced hash journal) :
      Balanced hash (requests.foldl (perform hash) journal) := by
    induction requests generalizing journal with
    | nil => exact balanced
    | cons request requests ih => exact ih (balanced.perform request)
  exact hfold (.empty hash)

end Journal

/-! ## What a save answers -/

section Answers

variable (hash : TextHash) {id : String} (text : String) (expected : Revision)
  (writePatch : PatchWriter) {memory : Memory}

theorem isOk_save_iff {current : Snapshot} (hget : memory.get? id = some current) :
    ((save hash id text expected writePatch).run.run memory).1.isOk ↔
      expected = current.revision := by
  rw [run_save, hget]
  by_cases hrevision : current.revision = expected
  · simp [hrevision, Except.isOk, Except.toBool]
  · simp [hrevision, Ne.symm hrevision, Except.isOk, Except.toBool]

theorem save_of_get?_eq_none (hget : memory.get? id = none) :
    ∃ commit, ((save hash id text expected writePatch).run.run memory).1 = .ok commit ∧
      ((save hash id text expected writePatch).run.run memory).2.get? id =
        some ⟨text, commit.revision⟩ := by
  rw [run_save, hget]
  refine ⟨_, rfl, ?_⟩
  rw [get?_insert, if_pos rfl]

theorem inv_save_error {fault : DocError}
    (hfault : ((save hash id text expected writePatch).run.run memory).1 = .error fault) :
    ((save hash id text expected writePatch).run.run memory).2 = memory ∧
      (∃ current, memory.get? id = some current ∧ fault = .revisionConflict current.revision) ∧
      ∀ other, (save hash id text expected other).run.run memory =
        (save hash id text expected writePatch).run.run memory := by
  simp only [run_save] at hfault ⊢
  cases hget : memory.get? id with
  | none => simp [hget] at hfault
  | some current =>
      by_cases hrevision : current.revision = expected
      · simp [hget, hrevision] at hfault
      · have hconflict : fault = .revisionConflict current.revision := by
          simpa [hget, hrevision, eq_comm] using hfault
        simp [hrevision, hconflict]

end Answers

/--
Over every run, no revision is handed out twice, and each document is as its last issue
says.  The next save succeeds if the document is at the expected revision or is not there
yet; if it fails, it changes nothing, names the current revision, and asks for no patch.
-/
theorem each_revision_names_one_commit (hash : TextHash) (requests : List Request) :
    let journal := Journal.run hash requests
    (journal.issues.map Issue.revision).Nodup ∧
      (∀ id, journal.memory.get? id =
        (journal.issues.find? fun issue => issue.id == id).map Issue.snapshot) ∧
      ∀ id text expected writePatch,
        let saved := (save hash id text expected writePatch).run.run journal.memory
        (∀ current, journal.memory.get? id = some current →
          (saved.1.isOk ↔ expected = current.revision)) ∧
        (journal.memory.get? id = none →
          ∃ commit, saved.1 = .ok commit ∧ saved.2.get? id = some ⟨text, commit.revision⟩) ∧
        ∀ fault, saved.1 = .error fault →
          saved.2 = journal.memory ∧
          (∃ current, journal.memory.get? id = some current ∧
            fault = .revisionConflict current.revision) ∧
          ∀ other, (save hash id text expected other).run.run journal.memory = saved := by
  intro journal
  have hledger : Ledger hash journal.issues journal.memory := Journal.balanced_run hash requests
  refine ⟨hledger.numbered.nodup, hledger.get?_eq, ?_⟩
  intro id text expected writePatch
  refine ⟨?_, ?_, ?_⟩
  · intro current hget
    exact isOk_save_iff hash text expected writePatch hget
  · intro hget
    exact save_of_get?_eq_none hash text expected writePatch hget
  · intro fault hfault
    exact inv_save_error hash text expected writePatch hfault

end Sections.Memory
