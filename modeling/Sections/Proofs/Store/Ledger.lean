import Mathlib.Data.List.Nodup
import Sections.Proofs.Association
import Sections.Proofs.Text.Numeral
import Sections.Proofs.Text.Split
import Sections.Store.Memory

/-!
# The ledger of a store in memory

Every insertion and every successful save of a store in memory hands out a new revision.  The ledger
is the list of all revisions handed out, each with its document and text, the last one first.  It
determines the store: each document is as its last issue says.  No revision occurs in it twice,
since the number that a token begins with can be read off it.
-/

namespace Sections

structure Issue where
  id : String
  text : String
  revision : Revision
  deriving DecidableEq, Repr

def Issue.snapshot (issue : Issue) : Snapshot := ⟨issue.text, issue.revision⟩

namespace Memory

/-! ## Tokens -/

theorem generation_eq_of_revisionFor_eq {hash : TextHash} {first second : Nat}
    {text other : String}
    (h : revisionFor hash first text = revisionFor hash second other) : first = second := by
  have htoken : Nat.toDigits 10 first ++ '-' :: (fingerprint hash text).toList =
      Nat.toDigits 10 second ++ '-' :: (fingerprint hash other).toList := by
    simpa [revisionFor] using congrArg (fun revision => revision.token.toList) h
  exact eq_of_decimal_eq (front_eq_of_append_cons_eq (hyphen_notMem_decimal first)
    (hyphen_notMem_decimal second) htoken).1

/-! ## What the operations do -/

theorem get?_insert (hash : TextHash) (id text other : String) (memory : Memory) :
    (insert hash id text memory).2.get? other =
      if other = id then some ⟨text, (insert hash id text memory).1⟩ else memory.get? other := by
  by_cases hother : other = id
  · simp [insert, get?, hother]
  · have hbeq : (other == id) = false := by simpa using hother
    simp [insert, get?, hother, hbeq, List.lookup_cons, lookup_filter_ne hother]

theorem run_load (id : String) (memory : Memory) :
    (load id).run.run memory =
      (match memory.get? id with
        | some snapshot => .ok snapshot
        | none => .error (.notFound id), memory) := by
  change (StateT.run (ExceptT.run (match memory.get? id with
    | some snapshot => pure snapshot
    | none => throw (.notFound id) : StoreM Memory Snapshot)) memory) = _
  cases memory.get? id <;> rfl

theorem run_save (hash : TextHash) (id text : String) (expected : Revision)
    (writePatch : PatchWriter) (memory : Memory) :
    (save hash id text expected writePatch).run.run memory =
      match memory.get? id with
      | some current =>
        if current.revision = expected then
          (.ok ⟨(insert hash id text memory).1, writePatch current.text text⟩,
            (insert hash id text memory).2)
        else (.error (.revisionConflict current.revision), memory)
      | none =>
        (.ok ⟨(insert hash id text memory).1, writePatch "" text⟩,
          (insert hash id text memory).2) := by
  change (StateT.run (ExceptT.run (match memory.get? id with
    | some current =>
      if current.revision = expected then save.commit hash id text (writePatch current.text text)
      else throw (.revisionConflict current.revision)
    | none => save.commit hash id text (writePatch "" text) : StoreM Memory Commit)) memory) = _
  cases memory.get? id with
  | none => rfl
  | some current =>
      dsimp only
      split <;> rfl

theorem inv_save {hash : TextHash} {id text : String} {expected : Revision}
    {writePatch : PatchWriter} {memory after : Memory} {commit : Commit}
    (hsave : (save hash id text expected writePatch).run.run memory = (.ok commit, after)) :
    (∀ current, memory.get? id = some current → current.revision = expected) ∧
      commit.revision = (insert hash id text memory).1 ∧
      after = (insert hash id text memory).2 := by
  rw [run_save] at hsave
  cases hget : memory.get? id with
  | none =>
      rw [hget] at hsave
      cases hsave
      simp
  | some current =>
      by_cases hrevision : current.revision = expected
      · simp only [hget, hrevision, if_true] at hsave
        cases hsave
        simp [hrevision]
      · simp only [hget, hrevision, if_false] at hsave
        cases hsave

/-! ## The ledger -/

/-- The issues are numbered from one, and each token is made from number and text. -/
def Numbered (hash : TextHash) : List Issue → Prop
  | [] => True
  | issue :: earlier =>
    issue.revision = revisionFor hash (earlier.length + 1) issue.text ∧ Numbered hash earlier

structure Ledger (hash : TextHash) (issues : List Issue) (memory : Memory) : Prop where
  numbered : Numbered hash issues
  generation_eq : memory.generation = issues.length
  get?_eq : ∀ id, memory.get? id = (issues.find? fun issue => issue.id == id).map Issue.snapshot

theorem Numbered.exists_generation {hash : TextHash} {issues : List Issue}
    (numbered : Numbered hash issues) {issue : Issue} (hmem : issue ∈ issues) :
    ∃ number ≤ issues.length, issue.revision = revisionFor hash number issue.text := by
  induction issues with
  | nil => simp at hmem
  | cons latest earlier ih =>
      rcases List.mem_cons.mp hmem with rfl | hmem
      · exact ⟨earlier.length + 1, Nat.le_refl _, numbered.1⟩
      · obtain ⟨number, hle, heq⟩ := ih numbered.2 hmem
        exact ⟨number, Nat.le_succ_of_le hle, heq⟩

theorem Numbered.nodup {hash : TextHash} {issues : List Issue} (numbered : Numbered hash issues) :
    (issues.map Issue.revision).Nodup := by
  induction issues with
  | nil => simp
  | cons latest earlier ih =>
      refine List.nodup_cons.mpr ⟨?_, ih numbered.2⟩
      intro hmem
      obtain ⟨issue, hissue, hrevision⟩ := List.mem_map.mp hmem
      obtain ⟨number, hle, heq⟩ := numbered.2.exists_generation hissue
      have htoken := heq.symm.trans (hrevision.trans numbered.1)
      have := generation_eq_of_revisionFor_eq htoken
      omega

theorem Ledger.empty (hash : TextHash) : Ledger hash [] {} :=
  ⟨trivial, rfl, fun _ => rfl⟩

theorem Ledger.insert {hash : TextHash} {issues : List Issue} {memory : Memory}
    (ledger : Ledger hash issues memory) (id text : String) :
    Ledger hash (⟨id, text, (Memory.insert hash id text memory).1⟩ :: issues)
      (Memory.insert hash id text memory).2 where
  numbered := ⟨by simp [Memory.insert, ledger.generation_eq], ledger.numbered⟩
  generation_eq := by simp [Memory.insert, ledger.generation_eq]
  get?_eq other := by
    rw [get?_insert]
    by_cases hother : other = id
    · simp [hother, Issue.snapshot]
    · simp [hother, Ne.symm hother, ledger.get?_eq other]

theorem Ledger.save {hash : TextHash} {issues : List Issue} {memory : Memory}
    (ledger : Ledger hash issues memory) (id text : String) (expected : Revision)
    (writePatch : PatchWriter) :
    let saved := (Memory.save hash id text expected writePatch).run.run memory
    Ledger hash
      (match saved.1 with
        | .ok commit => ⟨id, text, commit.revision⟩ :: issues
        | .error _ => issues)
      saved.2 := by
  rw [run_save]
  cases memory.get? id with
  | none => exact ledger.insert id text
  | some current =>
      by_cases hrevision : current.revision = expected
      · simpa [hrevision] using ledger.insert id text
      · simpa [hrevision] using ledger

theorem Ledger.issue_mem {hash : TextHash} {issues : List Issue} {memory : Memory}
    (ledger : Ledger hash issues memory) {id : String} {snapshot : Snapshot}
    (hget : memory.get? id = some snapshot) : ⟨id, snapshot.text, snapshot.revision⟩ ∈ issues := by
  rw [ledger.get?_eq, Option.map_eq_some_iff] at hget
  obtain ⟨issue, hfind, rfl⟩ := hget
  have hid : issue.id = id := by simpa using List.find?_some hfind
  rw [← hid]
  exact List.mem_of_find?_eq_some hfind

theorem Ledger.fst_insert_ne {hash : TextHash} {issues : List Issue} {memory : Memory}
    (ledger : Ledger hash issues memory) {id : String} {snapshot : Snapshot}
    (hget : memory.get? id = some snapshot) (other text : String) :
    (Memory.insert hash other text memory).1 ≠ snapshot.revision := by
  intro heq
  have hissued := List.mem_map_of_mem (f := Issue.revision) (ledger.issue_mem hget)
  have hnodup := (ledger.insert other text).numbered.nodup
  rw [List.map_cons, heq] at hnodup
  exact (List.nodup_cons.mp hnodup).1 hissued

theorem Numbered.filter_revision_eq {hash : TextHash} {issues : List Issue}
    (numbered : Numbered hash issues) {issue : Issue} (hmem : issue ∈ issues) :
    issues.filter (fun other => other.revision = issue.revision) = [issue] := by
  have hnodup := numbered.nodup
  clear numbered
  induction issues with
  | nil => simp at hmem
  | cons latest earlier ih =>
      obtain ⟨hlatest, hearlier⟩ := List.nodup_cons.mp hnodup
      rcases List.mem_cons.mp hmem with rfl | hmem
      · have hnone : earlier.filter (fun other => other.revision = issue.revision) = [] := by
          rw [List.filter_eq_nil_iff]
          intro other hother hrevision
          exact hlatest (List.mem_map.mpr ⟨other, hother, by simpa using hrevision⟩)
        simp [hnone]
      · have hne : latest.revision ≠ issue.revision := by
          intro heq
          exact hlatest (heq ▸ List.mem_map_of_mem hmem)
        simp [hne, ih hmem hearlier]

theorem Ledger.get?_eq_of_revision_mem {hash : TextHash} {older newer : List Issue}
    {before after : Memory} (hbefore : Ledger hash older before)
    (hafter : Ledger hash (newer ++ older) after) {id : String} {snapshot : Snapshot}
    (hget : after.get? id = some snapshot) (hold : snapshot.revision ∈ older.map Issue.revision) :
    before.get? id = some snapshot := by
  have hnodup : (newer.map Issue.revision ++ older.map Issue.revision).Nodup := by
    simpa using hafter.numbered.nodup
  rw [hafter.get?_eq, List.find?_append] at hget
  cases hnewer : newer.find? fun issue => issue.id == id with
  | none => simpa [hnewer, hbefore.get?_eq] using hget
  | some issue =>
      have hsnapshot : issue.snapshot = snapshot := by simpa [hnewer] using hget
      have hnew : snapshot.revision ∈ newer.map Issue.revision :=
        List.mem_map.mpr
          ⟨issue, List.mem_of_find?_eq_some hnewer, by simp [← hsnapshot, Issue.snapshot]⟩
      exact absurd hold (List.disjoint_of_nodup_append hnodup hnew)

end Memory

end Sections
