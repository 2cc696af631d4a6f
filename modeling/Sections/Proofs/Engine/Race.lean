import Mathlib.Data.List.Induction
import Sections.Proofs.Engine.Contest
import Sections.Proofs.Engine.Preparation
import Sections.Proofs.Index.Resolve
import Sections.Proofs.Store.Journal

/-!
# Races

The callers of a contest take their steps in the order of a schedule.  The one that is the first to
save wins, and the race ends as if it had been alone.  The others fail, but only those that loaded
in time are sure to be told of a conflict.
-/

namespace Sections

/-- The store and how far the edit of each caller has come. -/
structure Race (κ : Type) where
  memory : Memory
  attempts : κ → Attempt

namespace Contest

variable {κ : Type} (contest : Contest κ)

variable [DecidableEq κ]

def takeStep (race : Race κ) (caller : κ) : Race κ :=
  let next := contest.advance caller (race.attempts caller) race.memory
  ⟨next.2, Function.update race.attempts caller next.1⟩

def race (schedule : List κ) (memory : Memory) : Race κ :=
  schedule.foldl contest.takeStep ⟨memory, fun _ => .waiting⟩

def loads (memory : Memory) (front : List κ) (caller : κ) : Attempt :=
  if caller ∈ front then (contest.advance caller .waiting memory).1 else .waiting

section Run

variable {contest} {caller : κ} {memory : Memory}

theorem loads_nil : contest.loads memory [] = fun _ => .waiting := by
  funext caller
  exact if_neg List.not_mem_nil

theorem foldl_takeStep_loads {done front : List κ} (hnodup : (done ++ front).Nodup) :
    front.foldl contest.takeStep ⟨memory, contest.loads memory done⟩ =
      ⟨memory, contest.loads memory (done ++ front)⟩ := by
  induction front generalizing done with
  | nil => simp
  | cons first rest ih =>
      have hfirst : first ∉ done := by
        intro hmem
        exact (List.disjoint_of_nodup_append hnodup) hmem List.mem_cons_self
      have hstep : contest.takeStep ⟨memory, contest.loads memory done⟩ first =
          ⟨memory, contest.loads memory (done ++ [first])⟩ := by
        simp only [takeStep, loads, if_neg hfirst, (advance_waiting_bound contest first memory).1]
        congr 1
        funext caller
        by_cases hcaller : caller = first
        · simp [loads, hcaller]
        · simp [loads, hcaller]
      rw [List.foldl_cons, hstep, ih (by simpa using hnodup), List.append_assoc]
      rfl

theorem loads_bound (contest : Contest κ) (memory : Memory) (front : List κ) (caller : κ) :
    (contest.loads memory front caller).Bound contest.id contest.expected := by
  unfold loads
  split
  · exact (advance_waiting_bound contest caller memory).2
  · exact .waiting

theorem foldl_takeStep_of_moved {current : Snapshot}
    (hget : memory.get? contest.id = some current) (hmoved : current.revision ≠ contest.expected)
    (back : List κ) {attempts : κ → Attempt}
    (hbound : ∀ caller, (attempts caller).Bound contest.id contest.expected) :
    back.foldl contest.takeStep ⟨memory, attempts⟩ =
      ⟨memory, fun caller =>
        contest.progress caller memory (back.count caller) (attempts caller)⟩ := by
  induction back generalizing attempts with
  | nil => rfl
  | cons first rest ih =>
      have hfirst := advance_bound first hget hmoved (hbound first)
      rw [List.foldl_cons, takeStep, hfirst.1, ih]
      · congr 1
        funext caller
        by_cases hcaller : caller = first
        · subst hcaller
          rw [Function.update_self, List.count_cons_self, progress_succ]
        · rw [Function.update_of_ne hcaller, List.count_cons_of_ne (Ne.symm hcaller)]
      · intro caller
        by_cases hcaller : caller = first
        · subst hcaller
          rw [Function.update_self]
          exact hfirst.2
        · rw [Function.update_of_ne hcaller]
          exact hbound caller

theorem race_eq {front : List κ} {winner : κ} (hfront : front.Nodup) (hwinner : winner ∈ front)
    {envelope : Envelope} {after : Memory} {current : Snapshot}
    (hok : contest.alone winner memory = (.ok envelope, after))
    (hafter : after.get? contest.id = some current)
    (hmoved : current.revision ≠ contest.expected) (back : List κ) :
    contest.race (front ++ winner :: back) memory =
      ⟨after, fun caller =>
        contest.progress caller after (back.count caller)
          (if caller = winner then .answered (.ok envelope)
            else contest.loads memory front caller)⟩ := by
  have hloads : front.foldl contest.takeStep ⟨memory, fun _ => .waiting⟩ =
      ⟨memory, contest.loads memory front⟩ := by
    rw [← loads_nil]
    exact foldl_takeStep_loads hfront
  have hsave : contest.takeStep ⟨memory, contest.loads memory front⟩ winner =
      ⟨after, fun caller => if caller = winner then .answered (.ok envelope)
        else contest.loads memory front caller⟩ := by
    simp only [takeStep, loads, if_pos hwinner, advance_advance_waiting, hok]
    congr 1
    funext caller
    by_cases hcaller : caller = winner
    · simp [hcaller]
    · simp [loads, hcaller]
  have hbound (caller : κ) : (if caller = winner then .answered (.ok envelope)
      else contest.loads memory front caller).Bound contest.id contest.expected := by
    split
    · exact .answered _
    · exact loads_bound contest memory front caller
  rw [race, List.foldl_append, hloads, List.foldl_cons, hsave]
  exact foldl_takeStep_of_moved hafter hmoved back hbound

theorem loser_fails {front : List κ} {text updated : String} {revision : Revision}
    {envelope : Envelope} {alone after : Memory} {left : Nat}
    (hget : memory.get? contest.id = some ⟨text, contest.expected⟩)
    (hok : contest.alone caller memory = (.ok envelope, alone))
    (hafter : after.get? contest.id = some ⟨updated, revision⟩)
    (hmoved : revision ≠ contest.expected) (hfront : front.Nodup)
    (htwice : 2 ≤ front.count caller + left) :
    ∃ fault, contest.progress caller after left (contest.loads memory front caller) =
        .answered (.error fault) ∧
      (caller ∈ front ∨ (contest.prepareOn caller updated).isOk →
        fault = .revisionConflict revision) ∧
      (caller ∉ front → ∀ other, contest.prepareOn caller updated = .error other →
        fault = other ∧ fault.isRetryable = false) := by
  obtain ⟨hpayload, own, hown, -⟩ := inv_alone_ok hget hok
  unfold loads
  by_cases hearly : caller ∈ front
  · have hleft : 1 ≤ left := by
      have := List.count_eq_one_of_mem hfront hearly
      omega
    obtain ⟨cache, hload⟩ := advance_waiting_of_get? hget hpayload
    rw [hown] at hload
    rw [if_pos hearly, hload, progress_loaded hafter hmoved cache hleft]
    exact ⟨_, rfl, fun _ => rfl, fun hlate => absurd hearly hlate⟩
  · have hleft : 2 ≤ left := by
      have := List.count_eq_zero_of_not_mem hearly
      omega
    rw [if_neg hearly, progress_waiting hafter hmoved hpayload hleft]
    refine ⟨_, rfl, ?_, ?_⟩
    · rintro (hmem | hisOk)
      · exact absurd hmem hearly
      · cases hprepare : contest.prepareOn caller updated with
        | ok value => rfl
        | error fault => simp [hprepare, Except.isOk, Except.toBool] at hisOk
    · intro _ other hother
      rw [hother]
      exact ⟨rfl, FailsForGood.prepare _ _ _ other hother⟩

end Run

theorem exists_first_save {schedule : List κ} (hrepeat : ¬schedule.Nodup) :
    ∃ front winner back, schedule = front ++ winner :: back ∧ front.Nodup ∧ winner ∈ front := by
  induction schedule using List.reverseRecOn with
  | nil => exact absurd List.nodup_nil hrepeat
  | append_singleton earlier last ih =>
      by_cases hearlier : earlier.Nodup
      · have hlast : last ∈ earlier := by
          by_contra hnew
          exact hrepeat (by simpa using hearlier.concat hnew)
        exact ⟨earlier, last, [], rfl, hearlier, hlast⟩
      · obtain ⟨front, winner, back, rfl, hfront, hwinner⟩ := ih hearlier
        exact ⟨front, winner, back ++ [last], by simp, hfront, hwinner⟩

/--
How a race ends that `winner` wins, being the first to save, after the steps `front`.  It
leaves what the winner's edit alone would leave.  Whoever else has taken both steps has
failed, with a conflict or with the fault of preparing its edit on the winner's text.
-/
structure WonBy (contest : Contest κ) (schedule : List κ) (memory : Memory) (front : List κ)
    (winner : κ) (envelope : Envelope) (updated : String) : Prop where
  first : ∃ back, schedule = front ++ winner :: back
  nodup : front.Nodup
  loaded : winner ∈ front
  won : (contest.race schedule memory).attempts winner = .answered (.ok envelope)
  alone_eq : contest.alone winner memory = (.ok envelope, (contest.race schedule memory).memory)
  stored : (contest.race schedule memory).memory.get? contest.id =
    some ⟨updated, envelope.newRevision⟩
  lost : ∀ loser, loser ≠ winner → 2 ≤ schedule.count loser →
    ∃ fault, (contest.race schedule memory).attempts loser = .answered (.error fault) ∧
      (loser ∈ front ∨ (contest.prepareOn loser updated).isOk →
        fault = .revisionConflict envelope.newRevision) ∧
      (loser ∉ front → ∀ other, contest.prepareOn loser updated = .error other →
        fault = other ∧ fault.isRetryable = false)

/--
All callers expect the revision that the document is at, and each edit would be committed
if it were made alone.  When some caller has taken a second step, exactly one has won.  The
others are told of a conflict with the winner's revision if they loaded before the winner
saved, or if their edit can be prepared on the winner's text; otherwise of the fault of
preparing it there, which is not retryable.
-/
theorem first_to_save_wins (contest : Contest κ) (requests : List Memory.Request)
    (schedule : List κ) {memory : Memory} {text : String}
    (hmemory : memory = (Memory.Journal.run contest.hash requests).memory)
    (hget : memory.get? contest.id = some ⟨text, contest.expected⟩)
    (halone : ∀ caller, (contest.alone caller memory).1.isOk) (hrepeat : ¬schedule.Nodup) :
    ∃ front winner envelope updated,
      contest.WonBy schedule memory front winner envelope updated := by
  obtain ⟨front, winner, back, hschedule, hfront, hwinner⟩ := exists_first_save hrepeat
  have hledger : Memory.Ledger contest.hash (Memory.Journal.run contest.hash requests).issues
      memory := hmemory ▸ Memory.Journal.balanced_run contest.hash requests
  have hok (caller : κ) :
      ∃ envelope after, contest.alone caller memory = (.ok envelope, after) := by
    have hisOk := halone caller
    rcases hrun : contest.alone caller memory with ⟨fault | envelope, after⟩
    · rw [hrun] at hisOk
      cases hisOk
    · exact ⟨envelope, after, rfl⟩
  obtain ⟨envelope, after, hwon⟩ := hok winner
  obtain ⟨-, prepared, -, hrevision, hafter⟩ := inv_alone_ok hget hwon
  have hmoved : envelope.newRevision ≠ contest.expected := by
    rw [hrevision]
    exact hledger.fst_insert_ne hget contest.id prepared.updated
  have hfinal := race_eq hfront hwinner hwon hafter hmoved back
  rw [← hschedule] at hfinal
  refine ⟨front, winner, envelope, prepared.updated, ?_⟩
  constructor
  case first => exact ⟨back, hschedule⟩
  case nodup => exact hfront
  case loaded => exact hwinner
  case won => simp [hfinal]
  case alone_eq => rw [hfinal, hwon]
  case stored => rw [hfinal, hafter]
  case lost =>
    intro loser hloser htwice
    obtain ⟨lost, ruined, hlost⟩ := hok loser
    have hcount : schedule.count loser = front.count loser + back.count loser := by
      rw [hschedule, List.count_append, List.count_cons_of_ne hloser.symm]
    rw [hfinal]
    simp only [if_neg hloser]
    exact loser_fails hget hlost hafter hmoved hfront (hcount ▸ htwice)

/-! ## A deletion against a replacement -/

def deleteAgainstReplace (hash : TextHash) (parse : String → Node) : Contest Bool where
  hash := hash
  parse := parse
  options _ := {}
  id := "doc"
  expected := Memory.revisionFor hash 1 "Hello"
  edits
    | false => ⟨.delete, .ofRange 0 5, none⟩
    | true => ⟨.replace, .ofRange 0 5, some "Hi"⟩

def helloMemory (hash : TextHash) : Memory :=
  (Memory.Journal.run hash [.insert "doc" "Hello"]).memory

section Rivals

variable (hash : TextHash) (parse : String → Node)

theorem get?_helloMemory : (helloMemory hash).get? "doc" =
    some ⟨"Hello", (deleteAgainstReplace hash parse).expected⟩ := by
  change (Memory.insert hash "doc" "Hello" {}).2.get? "doc" = _
  rw [Memory.get?_insert, if_pos rfl]
  rfl

theorem prepareOn_hello (caller : Bool) :
    (deleteAgainstReplace hash parse).prepareOn caller "Hello" =
      .ok ⟨"Hello", if caller then "Hi" else ""⟩ := by
  have hspan : resolveSpan (.ofText parse {} "Hello") (.ofRange 0 5) "Hello".utf8ByteSize =
      .ok ⟨0, 5⟩ :=
    resolveSpan_ofRange 0 5 _
  cases caller with
  | false => exact DocEdit.prepare_eq_ok hspan rfl rfl
  | true =>
      have hsplice : (SpanEdit.mk .replace ⟨0, 5⟩ (some "Hi")).applyTo "Hello" = .ok "Hi" := rfl
      exact DocEdit.prepare_eq_ok hspan rfl hsplice

theorem prepareOn_empty :
    (deleteAgainstReplace hash parse).prepareOn true "" = .error (.rangeOutOfBounds 0 5 0) :=
  DocEdit.prepare_eq_error (resolveSpan_ofRange 0 5 _)

theorem alone_deleteAgainstReplace (caller : Bool) :
    ∃ envelope, (deleteAgainstReplace hash parse).alone caller (helloMemory hash) =
      (.ok envelope,
        ((helloMemory hash).insert hash "doc" (if caller then "Hi" else "")).2) := by
  have hpayload : ((deleteAgainstReplace hash parse).edits caller).op.checkPayload
      ((deleteAgainstReplace hash parse).edits caller).text = .ok () := by
    cases caller <;> rfl
  rw [alone_eq (get?_helloMemory hash parse) hpayload, prepareOn_hello]
  exact ⟨_, rfl⟩

theorem isOk_alone_deleteAgainstReplace (caller : Bool) :
    ((deleteAgainstReplace hash parse).alone caller (helloMemory hash)).1.isOk := by
  obtain ⟨envelope, halone⟩ := alone_deleteAgainstReplace hash parse caller
  rw [halone]
  rfl

theorem attempts_race_late :
    ((deleteAgainstReplace hash parse).race [false, false, true, true]
      (helloMemory hash)).attempts true = .answered (.error (.rangeOutOfBounds 0 5 0)) := by
  obtain ⟨envelope, hwon⟩ := alone_deleteAgainstReplace hash parse false
  rw [if_neg Bool.false_ne_true] at hwon
  have hafter : ((helloMemory hash).insert hash "doc" "").2.get? "doc" =
      some ⟨"", ((helloMemory hash).insert hash "doc" "").1⟩ := by
    rw [Memory.get?_insert]
    exact if_pos rfl
  have hmoved : ((helloMemory hash).insert hash "doc" "").1 ≠
      (deleteAgainstReplace hash parse).expected :=
    (Memory.Journal.balanced_run hash [.insert "doc" "Hello"]).fst_insert_ne
      (get?_helloMemory hash parse) "doc" ""
  have hrace := race_eq (List.nodup_singleton false) List.mem_cons_self hwon hafter hmoved
    [true, true]
  have hlate : (deleteAgainstReplace hash parse).progress true _ 2 .waiting = _ :=
    progress_waiting hafter hmoved rfl (Nat.le_refl 2)
  rw [prepareOn_empty] at hlate
  change ((deleteAgainstReplace hash parse).race ([false] ++ false :: [true, true])
    (helloMemory hash)).attempts true = _
  rw [hrace]
  exact hlate

end Rivals

/--
Each of two edits alone would be committed, and both are made for one revision.  The one
that loads last fails all the same without a conflict.
-/
theorem late_rival_meets_no_conflict :
    let contest := deleteAgainstReplace xxh3 parseDocument
    let memory := helloMemory xxh3
    memory.get? "doc" = some ⟨"Hello", contest.expected⟩ ∧
      (∀ caller, (contest.alone caller memory).1.isOk) ∧
      (contest.race [false, false, true, true] memory).attempts true =
        .answered (.error (.rangeOutOfBounds 0 5 0)) :=
  ⟨get?_helloMemory xxh3 parseDocument, isOk_alone_deleteAgainstReplace xxh3 parseDocument,
    attempts_race_late xxh3 parseDocument⟩

theorem deletion_loses_to_replacement :
    let contest := deleteAgainstReplace xxh3 parseDocument
    let memory := helloMemory xxh3
    memory = (Memory.Journal.run contest.hash [.insert "doc" "Hello"]).memory ∧
      memory.get? contest.id = some ⟨"Hello", contest.expected⟩ ∧
      (∀ caller, (contest.alone caller memory).1.isOk) ∧
      ¬[false, true, true, false].Nodup ∧
      ∃ front winner envelope updated,
        contest.WonBy [false, true, true, false] memory front winner envelope updated := by
  intro contest memory
  have hget := get?_helloMemory xxh3 parseDocument
  have halone := isOk_alone_deleteAgainstReplace xxh3 parseDocument
  have hrepeat : ¬[false, true, true, false].Nodup := by decide
  exact ⟨rfl, hget, halone, hrepeat,
    first_to_save_wins contest [.insert "doc" "Hello"] _ rfl hget halone hrepeat⟩

end Contest

end Sections
