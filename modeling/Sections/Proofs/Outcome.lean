/-!
# Computations that can fail

A chain of steps succeeds only if each of them does, and fails with the failure of the first that
does not.  What the steps before a failure have done to a state stays.
-/

namespace Sections

variable {ε ε' α β : Type}

theorem inv_bind_ok {answer : Except ε α} {next : α → Except ε β} {result : β}
    (h : answer >>= next = .ok result) : ∃ value, answer = .ok value ∧ next value = .ok result := by
  cases answer with
  | error fault => cases h
  | ok value => exact ⟨value, rfl, h⟩

theorem inv_bind_error {answer : Except ε α} {next : α → Except ε β} {fault : ε}
    (h : answer >>= next = .error fault) :
    answer = .error fault ∨ ∃ value, answer = .ok value ∧ next value = .error fault := by
  cases answer with
  | error other => exact .inl (by cases h; rfl)
  | ok value => exact .inr ⟨value, rfl, h⟩

theorem exists_ok_of_isOk {answer : Except ε α} (h : answer.isOk) :
    ∃ value, answer = .ok value := by
  cases answer with
  | error fault => cases h
  | ok value => exact ⟨value, rfl⟩

theorem inv_map_ok {answer : Except ε α} {change : α → β} {result : β}
    (h : answer.map change = .ok result) : ∃ value, answer = .ok value ∧ change value = result := by
  cases answer with
  | error fault => cases h
  | ok value => exact ⟨value, rfl, by cases h; rfl⟩

theorem inv_mapError_ok {answer : Except ε α} {change : ε → ε'} {result : α}
    (h : answer.mapError change = .ok result) : answer = .ok result := by
  cases answer with
  | error fault => cases h
  | ok value => cases h; rfl

theorem inv_toOption_some {answer : Except ε α} {value : α} (h : answer.toOption = some value) :
    answer = .ok value := by
  cases answer with
  | error fault => cases h
  | ok found => cases h; rfl

end Sections

namespace ExceptT

variable {ε σ α β : Type} (state : σ)

def outcome (step : ExceptT ε (StateM σ) α) (state : σ) : Except ε α × σ := step.run.run state

@[simp] theorem outcome_pure (value : α) :
    (pure value : ExceptT ε (StateM σ) α).outcome state = (.ok value, state) := rfl

@[simp] theorem outcome_throw (fault : ε) :
    (throw fault : ExceptT ε (StateM σ) α).outcome state = (.error fault, state) := rfl

@[simp] theorem outcome_get :
    (get : ExceptT ε (StateM σ) σ).outcome state = (.ok state, state) := rfl

@[simp] theorem outcome_ofExcept (answer : Except ε α) :
    (MonadExcept.ofExcept answer : ExceptT ε (StateM σ) α).outcome state = (answer, state) := by
  cases answer <;> rfl

theorem outcome_bind (step : ExceptT ε (StateM σ) α) (next : α → ExceptT ε (StateM σ) β) :
    (step >>= next).outcome state =
      match step.outcome state with
      | (.error fault, state) => (.error fault, state)
      | (.ok value, state) => (next value).outcome state := by
  change (ExceptT.bindCont next (step.outcome state).1).run (step.outcome state).2 = _
  rcases step.outcome state with ⟨fault | value, state'⟩ <;> rfl

theorem outcome_tryCatch (step : ExceptT ε (StateM σ) α) (handler : ε → ExceptT ε (StateM σ) α) :
    (tryCatch step handler).outcome state =
      match step.outcome state with
      | (.error fault, state) => (handler fault).outcome state
      | (.ok value, state) => (.ok value, state) := by
  simp only [outcome, ExceptT.run, StateT.run, tryCatch, tryCatchThe, MonadExceptOf.tryCatch,
    ExceptT.tryCatch, ExceptT.mk, bind, StateT.bind]
  rcases step state with ⟨fault | value, state'⟩ <;> rfl

end ExceptT
