import Sections.Diff.Script

/-!
# Compaction of edit scripts

Of the scripts that differ only in where an insertion stands among equal items, the compact one has
every insertion as late as possible.  Runs of one action are merged and deletions are moved past
insertions on the way.
-/

namespace Sections

variable {α : Type}

def EditRun.turned (run : EditRun α) : EditRun α := { run with items := run.items.reverse }

/-- One run of a script and what stands on both sides of it, on each side the nearest run first. -/
structure Focus (α : Type) where
  before : List (EditRun α)
  run : EditRun α
  after : List (EditRun α)

namespace Focus

def script (focus : Focus α) : EditScript α := focus.before.reverse ++ focus.run :: focus.after

def turned (focus : Focus α) : Focus α :=
  ⟨focus.after.map .turned, focus.run.turned, focus.before.map .turned⟩

def keepFirst (items : List α) : List (EditRun α) → List (EditRun α)
  | [] => [⟨.keep, items⟩]
  | next :: rest =>
    if next.action = .keep then ⟨.keep, items ++ next.items⟩ :: rest
    else ⟨.keep, items⟩ :: next :: rest

def room : List (EditRun α) → Nat
  | [] => 0
  | run :: rest => run.items.length + 1 + room rest

def count (action : Action) (runs : List (EditRun α)) : Nat :=
  runs.countP fun run => run.action = action

theorem count_map_turned (action : Action) (runs : List (EditRun α)) :
    count action (runs.map .turned) = count action runs := by
  rw [count, List.countP_map]
  rfl

theorem count_keepFirst {action : Action} (h : action ≠ .keep) (items : List α)
    (runs : List (EditRun α)) : count action (keepFirst items runs) = count action runs := by
  cases runs with
  | nil => simp [keepFirst, count, h.symm]
  | cons next rest =>
    by_cases hn : next.action = .keep <;> simp [keepFirst, count, List.countP_cons, hn, h.symm]

variable [DecidableEq α]

/--
Moves a run towards the start of the script.  It merges with runs of its own action and
passes runs of the opposite one.  An insertion moves over kept items as far as these end
like it does.
-/
def shiftUp (before : List (EditRun α)) (run : EditRun α) (after : List (EditRun α)) : Focus α :=
  match before with
  | [] => ⟨[], run, after⟩
  | previous :: rest =>
    if previous.action = run.action then
      shiftUp rest { run with items := previous.items ++ run.items } after
    else if previous.action ≠ .keep then shiftUp rest run (previous :: after)
    else
      let shared := commonSuffix previous.items run.items
      if run.action = .insert ∧ 0 < shared.length ∧ shared.length ≤ previous.items.length then
        let front := previous.items.take (previous.items.length - shared.length)
        let moved := shared ++ run.items.take (run.items.length - shared.length)
        if front.isEmpty then shiftUp rest { run with items := moved } (keepFirst shared after)
        else
          shiftUp (⟨.keep, front⟩ :: rest) { run with items := moved } (keepFirst shared after)
      else ⟨previous :: rest, run, after⟩
termination_by room before
decreasing_by
  all_goals simp +zetaDelta only [room, List.length_take] at *
  all_goals omega

def settle (focus : Focus α) : Focus α :=
  let raised := shiftUp focus.before focus.run focus.after
  let seen := raised.turned
  (shiftUp seen.before seen.run seen.after).turned

theorem count_after_shiftUp {run : EditRun α} (h : run.action ≠ .keep)
    (before after : List (EditRun α)) :
    count run.action (shiftUp before run after).after = count run.action after := by
  fun_induction shiftUp before run after with
  | case1 => rfl
  | case2 _ _ _ _ _ ih => exact ih h
  | case3 run after previous rest hother _ ih =>
    rw [ih h]
    simp [count, hother]
  | case4 run after previous rest _ _ shared _ front moved _ ih =>
    exact (ih h).trans (count_keepFirst h shared after)
  | case5 run after previous rest _ _ shared _ front moved _ ih =>
    exact (ih h).trans (count_keepFirst h shared after)
  | case6 => rfl

theorem action_shiftUp (before : List (EditRun α)) (run : EditRun α) (after : List (EditRun α)) :
    (shiftUp before run after).run.action = run.action := by
  fun_induction shiftUp before run after <;> simp_all

theorem count_before_shiftUp {run : EditRun α} (h : run.action ≠ .keep)
    (before after : List (EditRun α)) :
    count run.action (shiftUp before run after).before ≤ count run.action before := by
  fun_induction shiftUp before run after with
  | case1 => exact Nat.le_refl _
  | case2 _ _ _ _ _ ih => exact Nat.le_trans (ih h) (by simp [count, List.countP_cons])
  | case3 _ _ _ _ _ _ ih => exact Nat.le_trans (ih h) (by simp [count, List.countP_cons])
  | case4 _ _ _ _ _ _ _ _ _ _ _ ih => exact Nat.le_trans (ih h) (by simp [count, List.countP_cons])
  | case5 run after previous rest _ _ _ _ _ _ _ ih =>
    exact Nat.le_trans (ih h) (by simp [count, List.countP_cons, h.symm])
  | case6 => exact Nat.le_refl _

theorem count_after_settle {focus : Focus α} (h : focus.run.action ≠ .keep) :
    count focus.run.action focus.settle.after ≤ count focus.run.action focus.after := by
  have haction := action_shiftUp focus.before focus.run focus.after
  have hturned : (shiftUp focus.before focus.run focus.after).turned.run.action =
    focus.run.action := haction
  simp only [settle]
  show count _ (List.map _ _) ≤ _
  rw [count_map_turned, ← hturned]
  refine Nat.le_trans (count_before_shiftUp (by rw [hturned]; exact h) _ _) ?_
  rw [hturned]
  show count _ (List.map _ _) ≤ _
  exact Nat.le_of_eq (by rw [count_map_turned, count_after_shiftUp h])

end Focus

variable [DecidableEq α]

def settleAll (action : {action : Action // action ≠ .keep}) (before after : List (EditRun α)) :
    EditScript α :=
  match after with
  | [] => before.reverse
  | run :: rest =>
    if run.action = action then
      let settled := Focus.settle ⟨before, run, rest⟩
      settleAll action (settled.run :: settled.before) settled.after
    else settleAll action (run :: before) rest
termination_by (Focus.count action.val after, after.length)
decreasing_by
  · rename_i h
    have hle := Focus.count_after_settle (show (Focus.mk before run rest).run.action ≠ .keep by
      rw [h]; exact action.property)
    apply Prod.Lex.left
    simp only [h] at hle
    simp only [Focus.count, List.countP_cons, h, decide_true, if_true] at hle ⊢
    omega
  · apply Prod.Lex.right'
    · simp [Focus.count, List.countP_cons]
    · simp

def EditScript.compact (script : EditScript α) : EditScript α :=
  settleAll ⟨.insert, nofun⟩ [] (settleAll ⟨.delete, nofun⟩ [] script)

end Sections
