import Mathlib.Data.List.Basic
import Sections.Diff.Patch
import Sections.Proofs.Diff.Script
import Sections.Proofs.Text.Split

/-!
# The steps that a patch shows

A patch shows a script item by item, in an order in which deletions wait for no insertion.  Sources,
targets and numbers of changes are the same in this order, and the numbers can be read off the
lines of the patch again.
-/

namespace Sections

structure EditStep (α : Type) where
  action : Action
  item : α
  deriving DecidableEq, Repr

namespace EditStep

variable {α : Type} {steps : List (EditStep α)} {deleted inserted : List α}
  {script : EditScript α} {reads : Action → Bool}

/-- The items of the steps with some of the actions. -/
def selected (reads : Action → Bool) (steps : List (EditStep α)) : List α :=
  (steps.filter fun step => reads step.action).map item

/-- Whether there is a kept item between an insertion and any later deletion. -/
def DeletionsFirst (steps : List (EditStep α)) : Prop :=
  ∀ front between back new old,
    steps = front ++ ⟨.insert, new⟩ :: (between ++ ⟨.delete, old⟩ :: back) →
      ∃ step ∈ between, step.action = .keep

def many (action : Action) (items : List α) : List (EditStep α) := items.map (⟨action, ·⟩)

def ordered (deleted inserted : List α) : EditScript α → List (EditStep α)
  | [] => many .delete deleted ++ many .insert inserted
  | run :: rest =>
    match run.action with
    | .keep =>
      many .delete deleted ++ many .insert inserted ++ (many .keep run.items ++ ordered [] [] rest)
    | .delete => ordered (deleted ++ run.items) inserted rest
    | .insert => ordered deleted (inserted ++ run.items) rest

/-! ## What the steps select -/

theorem selected_append (reads : Action → Bool) (steps others : List (EditStep α)) :
    selected reads (steps ++ others) = selected reads steps ++ selected reads others := by
  simp [selected]

theorem selected_many (reads : Action → Bool) (action : Action) (items : List α) :
    selected reads (many action items) = if reads action then items else [] := by
  induction items with
  | nil => simp [selected, many]
  | cons item items ih =>
      unfold selected many at ih ⊢
      cases hreads : reads action <;> simp_all

theorem selected_ordered (hkeep : reads .keep) (hapart : ¬ (reads .delete ∧ reads .insert)) :
    selected reads (ordered deleted inserted script) =
      (if reads .delete then deleted else []) ++ (if reads .insert then inserted else []) ++
        script.reading reads := by
  induction script generalizing deleted inserted with
  | nil => simp [ordered, selected_append, selected_many]
  | cons run rest ih =>
      rw [ordered]
      cases haction : run.action with
      | keep => simp [selected_append, selected_many, ih, EditRun.read, haction, hkeep]
      | delete | insert =>
          cases hdelete : reads .delete <;> cases hinsert : reads .insert <;>
            simp_all [EditRun.read]

theorem length_selected (reads : Action → Bool) (steps : List (EditStep α)) :
    (selected reads steps).length = steps.countP fun step => reads step.action := by
  rw [selected, List.length_map, List.countP_eq_length_filter]

theorem countP_changes (steps : List (EditStep α)) :
    (steps.countP fun step => step.action != .insert) =
        (steps.countP fun step => step.action == .keep) +
          steps.countP (fun step => step.action == .delete) ∧
      (steps.countP fun step => step.action != .delete) =
        (steps.countP fun step => step.action == .keep) +
          steps.countP (fun step => step.action == .insert) := by
  induction steps with
  | nil => simp
  | cons step steps ih =>
      obtain ⟨hsource, htarget⟩ := ih
      cases haction : step.action <;> simp [haction, hsource, htarget] <;> omega

/-! ## The order of the steps -/

theorem deletionsFirst_of_forall_ne (action : Action) (haction : action ≠ .keep)
    (hsteps : ∀ step ∈ steps, step.action ≠ action) : DeletionsFirst steps := by
  rintro front between back new old rfl
  cases action with
  | keep => exact absurd rfl haction
  | delete => exact absurd rfl (hsteps ⟨.delete, old⟩ (by simp))
  | insert => exact absurd rfl (hsteps ⟨.insert, new⟩ (by simp))

theorem DeletionsFirst.append {others : List (EditStep α)} (hsteps : DeletionsFirst steps)
    (hothers : DeletionsFirst others)
    (hparted : (∀ step ∈ steps, step.action ≠ .insert) ∨
      ∃ step ∈ others.head?, step.action = .keep) :
    DeletionsFirst (steps ++ others) := by
  intro front between back new old hsplit
  rcases List.append_eq_append_iff.mp hsplit with ⟨rest, -, hrest⟩ | ⟨rest, rfl, hrest⟩
  · exact hothers rest between back new old hrest
  cases rest with
  | nil => exact hothers [] between back new old hrest.symm
  | cons first rest =>
      obtain ⟨rfl, htail⟩ := List.cons.inj hrest
      obtain ⟨kept, hkept, haction⟩ := hparted.resolve_left fun hnone =>
        hnone ⟨.insert, new⟩ (by simp) rfl
      obtain ⟨others, rfl⟩ := List.head?_eq_some_iff.mp hkept
      rcases List.append_eq_append_iff.mp htail with ⟨more, rfl, hmore⟩ | ⟨more, rfl, hmore⟩
      · cases more with
        | nil =>
            obtain ⟨rfl, -⟩ := List.cons.inj hmore
            cases haction
        | cons last more =>
            obtain ⟨rfl, -⟩ := List.cons.inj hmore
            exact hsteps front between more new old rfl
      · cases more with
        | nil =>
            obtain ⟨rfl, -⟩ := List.cons.inj hmore
            cases haction
        | cons last more =>
            obtain ⟨rfl, -⟩ := List.cons.inj hmore
            exact ⟨kept, by simp, haction⟩

theorem action_of_mem_many {action : Action} {items : List α} :
    ∀ step ∈ many action items, step.action = action := by
  simp [many]

theorem deletionsFirst_many {action : Action} {items : List α} :
    DeletionsFirst (many action items) := by
  cases action with
  | keep | delete =>
      refine deletionsFirst_of_forall_ne .insert (by simp) fun step hstep => ?_
      simp [action_of_mem_many step hstep]
  | insert =>
      refine deletionsFirst_of_forall_ne .delete (by simp) fun step hstep => ?_
      simp [action_of_mem_many step hstep]

theorem deletionsFirst_ordered (hfilled : script.Filled) :
    DeletionsFirst (ordered deleted inserted script) := by
  have hchanges (deleted inserted : List α) :
      DeletionsFirst (many .delete deleted ++ many .insert inserted) :=
    deletionsFirst_many.append deletionsFirst_many
      (.inl fun step hstep => by simp [action_of_mem_many step hstep])
  induction script generalizing deleted inserted with
  | nil => exact hchanges deleted inserted
  | cons run rest ih =>
      obtain ⟨hrun, hrest⟩ := List.forall_mem_cons.mp hfilled
      rw [ordered]
      cases haction : run.action with
      | keep =>
          obtain ⟨item, items, hitems⟩ := List.exists_cons_of_ne_nil hrun
          refine (hchanges deleted inserted).append (deletionsFirst_many.append (ih hrest) ?_) ?_
          · exact .inl fun step hstep => by simp [action_of_mem_many step hstep]
          · exact .inr ⟨⟨.keep, item⟩, by simp [hitems, many], rfl⟩
      | delete | insert => exact ih hrest

/-! ## How a patch shows the steps -/

def render : EditStep (List Char) → List Char
  | ⟨.keep, _⟩ => []
  | ⟨.delete, line⟩ => '-' :: line ++ ['\n']
  | ⟨.insert, line⟩ => '+' :: line ++ ['\n']

def sign? : Action → Option Char
  | .keep => none
  | .delete => some '-'
  | .insert => some '+'

def shown? (step : EditStep (List Char)) : Option (List Char) :=
  (sign? step.action).map (· :: step.item)

theorem flatMap_render (steps : List (EditStep (List Char))) :
    steps.flatMap render = (steps.filterMap shown?).flatMap (· ++ ['\n']) := by
  induction steps with
  | nil => rfl
  | cons step steps ih =>
      obtain ⟨action, line⟩ := step
      cases action <;> simp [render, shown?, sign?, ih, List.filterMap_cons]

theorem patchBody_eq_flatMap_render (deleted inserted : List (List Char))
    (script : EditScript (List Char)) :
    patchBody deleted inserted script = (ordered deleted inserted script).flatMap render := by
  have hdelete (lines : List (List Char)) :
      changedLines '-' lines = (many .delete lines).flatMap render := by
    simp [changedLines, many, List.flatMap_map, render]
  have hinsert (lines : List (List Char)) :
      changedLines '+' lines = (many .insert lines).flatMap render := by
    simp [changedLines, many, List.flatMap_map, render]
  have hkeep (lines : List (List Char)) : (many .keep lines).flatMap render = [] := by
    simp [many, List.flatMap_map, render]
  induction script generalizing deleted inserted with
  | nil => rw [patchBody, ordered, List.flatMap_append, hdelete, hinsert]
  | cons run rest ih =>
      rw [patchBody, ordered]
      cases run.action with
      | keep => simp only [List.flatMap_append, hdelete, hinsert, hkeep, ih, List.nil_append]
      | delete | insert => exact ih _ _

theorem head?_withoutReturn {sign : Char} (hsign : sign ≠ '\r') (line : List Char) :
    (if (sign :: line).getLast? = some '\r' then (sign :: line).dropLast
      else sign :: line).head? = some sign := by
  cases line with
  | nil => simp [hsign]
  | cons c line => split <;> simp

theorem countP_shown (sign : Char) (action : Action)
    (hsign : ∀ other, sign? other = some sign ↔ other = action)
    (steps : List (EditStep (List Char))) :
    (((steps.filterMap shown?).map fun line =>
        if line.getLast? = some '\r' then line.dropLast else line).countP
      fun line => line.head? == some sign) = steps.countP fun step => step.action == action := by
  rw [List.countP_map, List.countP_filterMap]
  refine List.countP_congr fun step _ => ?_
  have hreturn : ∀ c, sign? step.action = some c → c ≠ '\r' := by
    cases step.action <;> simp [sign?]
  cases hshown : sign? step.action with
  | none =>
      have hne : step.action ≠ action := fun heq => by simp [(hsign _).mpr heq] at hshown
      simp [shown?, hshown, hne]
  | some c =>
      have hhead := head?_withoutReturn (hreturn c hshown) step.item
      have hiff := hsign step.action
      rw [hshown, Option.some.injEq] at hiff
      simpa [shown?, hshown, hhead] using hiff

theorem changeCounts_render {steps : List (EditStep (List Char))}
    (hlines : ∀ step ∈ steps, '\n' ∉ step.item) :
    changeCounts (.ofList (patchHeader ++ steps.flatMap render)) =
      (steps.countP fun step => step.action == .delete,
        steps.countP fun step => step.action == .insert) := by
  have htext : patchHeader ++ steps.flatMap render =
      ("--- old".toList :: "+++ new".toList :: steps.filterMap shown?).flatMap (· ++ ['\n']) := by
    rw [flatMap_render, List.flatMap_cons, List.flatMap_cons, ← List.append_assoc]
    rfl
  have hshown : ∀ line ∈ steps.filterMap shown?, '\n' ∉ line := by
    intro line hline
    obtain ⟨step, hstep, hsome⟩ := List.mem_filterMap.mp hline
    have hitem := hlines step hstep
    cases haction : step.action <;> simp [shown?, sign?, haction] at hsome <;>
      simp [← hsome, hitem]
  have hall : ∀ line ∈ "--- old".toList :: "+++ new".toList :: steps.filterMap shown?,
      '\n' ∉ line := by
    simpa using hshown
  rw [changeCounts, String.toList_ofList, htext, linesOf_flatMap hall]
  simp only [List.map_cons, List.drop_succ_cons, List.drop_zero]
  rw [countP_shown '-' .delete fun other => by cases other <;> simp [sign?],
    countP_shown '+' .insert fun other => by cases other <;> simp [sign?]]

end EditStep

end Sections
