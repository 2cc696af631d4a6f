import Sections.Diff.Script

/-!
# What a script reads

The source, the target and the kept items of a script are read off its runs in the same way.  A
script can take the place of another if all of these are the same.
-/

namespace Sections

variable {α : Type}

/-! ## Common ends -/

section Ends

variable [DecidableEq α]

theorem commonPrefix_append_left (as bs : List α) :
    commonPrefix as bs ++ as.drop (commonPrefix as bs).length = as := by
  fun_induction commonPrefix as bs <;> simp_all

theorem commonPrefix_append_right (as bs : List α) :
    commonPrefix as bs ++ bs.drop (commonPrefix as bs).length = bs := by
  fun_induction commonPrefix as bs <;> simp_all

theorem drop_commonPrefix_eq_nil {as bs : List α}
    (hheads : (as.drop (commonPrefix as bs).length).head? =
      (bs.drop (commonPrefix as bs).length).head?) :
    as.drop (commonPrefix as bs).length = [] := by
  fun_induction commonPrefix as bs with
  | case1 as b bs ih => exact ih hheads
  | case2 a as b bs hne => exact absurd (Option.some.inj hheads) hne
  | case3 as bs hshort =>
      cases as with
      | nil => rfl
      | cons a as =>
          cases bs with
          | nil => cases hheads
          | cons b bs => exact absurd rfl (hshort a as b bs rfl)

theorem append_commonSuffix_left (as bs : List α) :
    as.take (as.length - (commonSuffix as bs).length) ++ commonSuffix as bs = as := by
  have hfront := congrArg List.reverse (commonPrefix_append_left as.reverse bs.reverse)
  simpa [commonSuffix, List.drop_reverse] using hfront

theorem append_commonSuffix_right (as bs : List α) :
    bs.take (bs.length - (commonSuffix as bs).length) ++ commonSuffix as bs = bs := by
  have hfront := congrArg List.reverse (commonPrefix_append_right as.reverse bs.reverse)
  simpa [commonSuffix, List.drop_reverse] using hfront

theorem take_commonSuffix_eq_nil {as bs : List α}
    (hlasts : (as.take (as.length - (commonSuffix as bs).length)).getLast? =
      (bs.take (bs.length - (commonSuffix as bs).length)).getLast?) :
    as.take (as.length - (commonSuffix as bs).length) = [] := by
  have hheads := @drop_commonPrefix_eq_nil _ _ as.reverse bs.reverse
  simp only [List.drop_reverse, List.head?_reverse, List.reverse_eq_nil_iff] at hheads
  simp only [commonSuffix, List.length_reverse] at hlasts ⊢
  exact hheads hlasts

end Ends

/-! ## Readings -/

def EditRun.read (reads : Action → Bool) (run : EditRun α) : List α :=
  if reads run.action then run.items else []

namespace EditScript

def reading (reads : Action → Bool) (script : EditScript α) : List α :=
  script.flatMap (EditRun.read reads)

def Filled (script : EditScript α) : Prop := ∀ run ∈ script, run.items ≠ []

variable {script other third before after : EditScript α} {reads : Action → Bool}
  {old new old' new' : List α} {kept kept' : Nat}

theorem source_eq_reading (script : EditScript α) :
    script.source = script.reading (· != .insert) := by
  unfold source reading
  congr 1
  funext run
  cases hrun : run.action <;> simp [EditRun.read, hrun]

theorem target_eq_reading (script : EditScript α) :
    script.target = script.reading (· != .delete) := by
  unfold target reading
  congr 1
  funext run
  cases hrun : run.action <;> simp [EditRun.read, hrun]

theorem kept_eq_reading (script : EditScript α) : script.kept = script.reading (· == .keep) := by
  unfold EditScript.kept reading
  congr 1
  funext run
  cases hrun : run.action <;> simp [EditRun.read, hrun]

@[simp] theorem reading_nil (reads : Action → Bool) :
    reading reads ([] : EditScript α) = [] := rfl

@[simp] theorem reading_cons (reads : Action → Bool) (run : EditRun α) (script : EditScript α) :
    reading reads (run :: script) = run.read reads ++ reading reads script := rfl

@[simp] theorem reading_append (reads : Action → Bool) (script other : EditScript α) :
    reading reads (script ++ other) = reading reads script ++ reading reads other :=
  List.flatMap_append

@[simp] theorem reading_run (reads : Action → Bool) (action : Action) (items : List α) :
    reading reads (run action items) = if reads action then items else [] := by
  unfold run
  cases items <;> simp [EditRun.read]

theorem filled_append : Filled (script ++ other) ↔ script.Filled ∧ other.Filled :=
  List.forall_mem_append

theorem filled_run (action : Action) (items : List α) : Filled (run action items) := by
  unfold run
  cases items <;> simp [Filled]

/-! ## Scripts between two lists -/

/-- What it means to turn one list into another with so many items kept. -/
structure Edits (script : EditScript α) (old new : List α) (kept : Nat) : Prop where
  source : script.source = old
  target : script.target = new
  kept : script.kept.length = kept
  filled : script.Filled

theorem Edits.append (hfront : script.Edits old new kept) (hback : other.Edits old' new' kept') :
    Edits (script ++ other) (old ++ old') (new ++ new') (kept + kept') := by
  constructor
  case source => simp only [← hfront.source, ← hback.source, source_eq_reading, reading_append]
  case target => simp only [← hfront.target, ← hback.target, target_eq_reading, reading_append]
  case kept =>
    simp only [← hfront.kept, ← hback.kept, kept_eq_reading, reading_append, List.length_append]
  case filled => exact filled_append.mpr ⟨hfront.filled, hback.filled⟩

theorem edits_keep (items : List α) : Edits (run .keep items) items items items.length := by
  refine ⟨?_, ?_, ?_, filled_run .keep items⟩
  · simp [source_eq_reading]
  · simp [target_eq_reading]
  · simp [kept_eq_reading]

theorem edits_replaceAll (old new : List α) : Edits (replaceAll old new) old new 0 := by
  refine ⟨?_, ?_, ?_, filled_append.mpr ⟨filled_run .delete old, filled_run .insert new⟩⟩
  · simp [replaceAll, source_eq_reading]
  · simp [replaceAll, target_eq_reading]
  · simp [replaceAll, kept_eq_reading]

/-! ## Scripts in the place of others -/

/-- Whether a script can take the place of another; deletions may have moved past insertions. -/
structure Replaces (other script : EditScript α) : Prop where
  reading : ∀ reads : Action → Bool, reads .keep → ¬ (reads .delete ∧ reads .insert) →
    other.reading reads = script.reading reads
  filled : script.Filled → other.Filled

theorem Replaces.refl (script : EditScript α) : Replaces script script :=
  ⟨fun _ _ _ => rfl, id⟩

theorem Replaces.trans (hfirst : third.Replaces other) (hsecond : other.Replaces script) :
    third.Replaces script :=
  ⟨fun reads hkeep hapart => (hfirst.reading reads hkeep hapart).trans
    (hsecond.reading reads hkeep hapart), hfirst.filled ∘ hsecond.filled⟩

theorem Replaces.within (hreplaces : other.Replaces script) (before after : EditScript α) :
    Replaces (before ++ other ++ after) (before ++ script ++ after) := by
  constructor
  case reading =>
    intro reads hkeep hapart
    simp only [reading_append, hreplaces.reading reads hkeep hapart]
  case filled =>
    simp only [filled_append]
    rintro ⟨⟨hbefore, hscript⟩, hafter⟩
    exact ⟨⟨hbefore, hreplaces.filled hscript⟩, hafter⟩

theorem Replaces.edits (hreplaces : other.Replaces script) (hedits : script.Edits old new kept) :
    other.Edits old new kept := by
  constructor
  case source =>
    rw [← hedits.source, source_eq_reading, source_eq_reading]
    exact hreplaces.reading _ rfl (by simp)
  case target =>
    rw [← hedits.target, target_eq_reading, target_eq_reading]
    exact hreplaces.reading _ rfl (by simp)
  case kept =>
    rw [← hedits.kept, kept_eq_reading, kept_eq_reading]
    exact congrArg List.length (hreplaces.reading _ rfl (by simp))
  case filled => exact hreplaces.filled hedits.filled

end EditScript

end Sections
