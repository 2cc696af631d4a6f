import Sections.Diff.Compaction
import Sections.Proofs.Diff.Script

/-!
# Compaction keeps the meaning of a script

A run moves by three kinds of steps: it merges with a run of its own action, it passes one of the
opposite action, and an insertion passes kept items that it ends with.
-/

namespace Sections

variable {α : Type}

open EditScript

/-! ## Steps -/

theorem replaces_merge (action : Action) (front back : List α) :
    Replaces [⟨action, front ++ back⟩] [⟨action, front⟩, ⟨action, back⟩] := by
  constructor
  case reading =>
    intro reads hkeep hapart
    cases hreads : reads action <;> simp [EditRun.read, hreads]
  case filled => simp +contextual [Filled]

theorem replaces_swap {first second : EditRun α} (hfirst : first.action ≠ .keep)
    (hsecond : second.action ≠ .keep) (hne : first.action ≠ second.action) :
    Replaces [second, first] [first, second] := by
  constructor
  case reading =>
    intro reads hkeep hapart
    have hsilent : first.read reads = [] ∨ second.read reads = [] := by
      cases haction : first.action <;> cases haction' : second.action <;>
        simp_all [EditRun.read] <;> grind
    rcases hsilent with hnil | hnil <;> simp [hnil]
  case filled => simp +contextual [Filled]

theorem replaces_shift (front : List α) {shared : List α} (back : List α) (hshared : shared ≠ []) :
    Replaces (run .keep front ++ [⟨.insert, shared ++ back⟩, ⟨.keep, shared⟩])
      [⟨.keep, front ++ shared⟩, ⟨.insert, back ++ shared⟩] := by
  constructor
  case reading =>
    intro reads hkeep hapart
    cases hreads : reads .insert <;> simp [EditRun.read, hkeep, hreads]
  case filled =>
    intro _
    refine filled_append.mpr ⟨filled_run .keep front, ?_⟩
    simp [Filled, hshared]

theorem replaces_keepFirst (items : List α) (runs : List (EditRun α)) :
    Replaces (Focus.keepFirst items runs) (⟨.keep, items⟩ :: runs) := by
  cases runs with
  | nil => exact .refl _
  | cons next rest =>
      by_cases hnext : next.action = .keep
      · obtain ⟨action, kept⟩ := next
        obtain rfl : action = .keep := hnext
        simpa [Focus.keepFirst] using (replaces_merge .keep items kept).within [] rest
      · rw [Focus.keepFirst, if_neg hnext]
        exact .refl _

/-! ## Turning a script around -/

theorem EditRun.turned_turned (run : EditRun α) : run.turned.turned = run := by
  simp [EditRun.turned]

theorem reading_turned (reads : Action → Bool) (script : EditScript α) :
    reading reads (script.map .turned).reverse = (reading reads script).reverse := by
  induction script with
  | nil => rfl
  | cons run script ih =>
      have hrun : run.turned.read reads = (run.read reads).reverse := by
        cases hreads : reads run.action <;> simp [EditRun.read, EditRun.turned, hreads]
      simp [ih, hrun]

theorem filled_turned {script : EditScript α} :
    Filled (script.map .turned).reverse ↔ script.Filled := by
  simp [Filled, EditRun.turned]

theorem EditScript.Replaces.turned {script other : EditScript α}
    (hreplaces : other.Replaces script) :
    Replaces (other.map .turned).reverse (script.map .turned).reverse := by
  constructor
  case reading =>
    intro reads hkeep hapart
    rw [reading_turned, reading_turned, hreplaces.reading reads hkeep hapart]
  case filled =>
    rw [filled_turned, filled_turned]
    exact hreplaces.filled

namespace Focus

theorem script_turned (focus : Focus α) :
    focus.turned.script = (focus.script.map .turned).reverse := by
  simp [script, turned]

theorem turned_turned (focus : Focus α) : focus.turned.turned = focus := by
  simp [turned, EditRun.turned_turned, Function.comp_def]

variable [DecidableEq α]

/-! ## Moving runs -/

theorem replaces_shifted {previous moving : EditRun α} {shared : List α}
    (hprevious : previous.action = .keep) (hmoving : moving.action = .insert)
    (hcommon : commonSuffix previous.items moving.items = shared) (hshared : shared ≠ [])
    (rest after : List (EditRun α)) :
    Replaces (rest.reverse ++
        (EditScript.run .keep (previous.items.take (previous.items.length - shared.length)) ++
          ⟨.insert, shared ++ moving.items.take (moving.items.length - shared.length)⟩ ::
            keepFirst shared after))
      (Focus.mk (previous :: rest) moving after).script := by
  obtain ⟨action, old⟩ := previous
  obtain ⟨action', new⟩ := moving
  obtain rfl : action = .keep := hprevious
  obtain rfl : action' = .insert := hmoving
  dsimp only at hcommon ⊢
  have hold := append_commonSuffix_left old new
  have hnew := append_commonSuffix_right old new
  rw [hcommon] at hold hnew
  generalize old.take (old.length - shared.length) = front at hold ⊢
  generalize new.take (new.length - shared.length) = back at hnew ⊢
  have hshift := (replaces_shift front back hshared).within rest.reverse after
  rw [hold, hnew] at hshift
  have hkept := (replaces_keepFirst shared after).within
    (rest.reverse ++ EditScript.run .keep front ++ [⟨.insert, shared ++ back⟩]) []
  refine Replaces.trans ?_ (by simpa [script] using hshift)
  simpa using hkept

theorem replaces_shiftUp {run : EditRun α} (hrun : run.action ≠ .keep)
    (before after : List (EditRun α)) :
    Replaces (shiftUp before run after).script (Focus.mk before run after).script := by
  fun_induction shiftUp before run after with
  | case1 => exact .refl _
  | case2 run after previous rest hsame ih =>
      refine (ih hrun).trans ?_
      obtain ⟨action, items⟩ := previous
      obtain rfl : action = run.action := hsame
      have hmerge := (replaces_merge run.action items run.items).within rest.reverse after
      simpa [script] using hmerge
  | case3 run after previous rest hother hkeep ih =>
      refine (ih hrun).trans ?_
      have hswap := (replaces_swap hkeep hrun hother).within rest.reverse after
      simpa [script] using hswap
  | case4 run after previous rest hother hkeep shared hinsert front moved hempty ih =>
      have hshifted := replaces_shifted (Decidable.not_not.mp hkeep) hinsert.1 rfl
        (List.length_pos_iff.mp hinsert.2.1) rest after
      have hnone : EditScript.run .keep front = [] := if_pos hempty
      refine (ih hrun).trans ?_
      simp only [front, shared] at hnone
      rw [hnone, ← hinsert.1] at hshifted
      exact hshifted
  | case5 run after previous rest hother hkeep shared hinsert front moved hfull ih =>
      have hshifted := replaces_shifted (Decidable.not_not.mp hkeep) hinsert.1 rfl
        (List.length_pos_iff.mp hinsert.2.1) rest after
      have hsome : EditScript.run .keep front = [⟨.keep, front⟩] := if_neg hfull
      refine (ih hrun).trans ?_
      simp only [front, shared] at hsome
      rw [hsome, ← hinsert.1] at hshifted
      simpa [script] using hshifted
  | case6 => exact .refl _

theorem replaces_settle {focus : Focus α} (hrun : focus.run.action ≠ .keep) :
    Replaces focus.settle.script focus.script := by
  have hraised := replaces_shiftUp hrun focus.before focus.after
  have haction := action_shiftUp focus.before focus.run focus.after
  unfold settle
  generalize shiftUp focus.before focus.run focus.after = raised at hraised haction
  have hseen : raised.turned.run.action ≠ .keep := by
    rw [← haction] at hrun
    exact hrun
  have hlowered := (replaces_shiftUp hseen raised.turned.before raised.turned.after).turned
  rw [← script_turned, ← script_turned] at hlowered
  have hback : (Focus.mk raised.turned.before raised.turned.run raised.turned.after).turned =
      raised := turned_turned raised
  rw [hback] at hlowered
  exact hlowered.trans hraised

end Focus

variable [DecidableEq α]

theorem replaces_settleAll (action : {action : Action // action ≠ .keep})
    (before after : List (EditRun α)) :
    Replaces (settleAll action before after) (before.reverse ++ after) := by
  fun_induction settleAll action before after with
  | case1 before => simpa using Replaces.refl before.reverse
  | case2 before run rest haction settled ih =>
      have hsettled : Replaces (Focus.settle ⟨before, run, rest⟩).script
          (Focus.mk before run rest).script :=
        Focus.replaces_settle (haction ▸ action.property)
      refine ih.trans ?_
      simpa [Focus.script, settled] using hsettled
  | case3 before run rest hother ih => simpa using ih

theorem replaces_compact (script : EditScript α) : Replaces script.compact script :=
  (replaces_settleAll _ [] _).trans (replaces_settleAll _ [] script)

end Sections
