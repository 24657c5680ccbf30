set_option autoImplicit false

namespace Execution

/-- Imperative code: it reads and writes a state, and an exception leaves the state as it is then. -/
abbrev Procedure (Exception State A : Type) := ExceptT Exception (StateM State) A

variable {Exception State A B : Type}

def perform (procedure : Procedure Exception State A) (state : State) : Except Exception A × State :=
  procedure.run.run state

@[simp]
theorem perform_pure (value : A) (state : State) :
    perform (pure value : Procedure Exception State A) state = (.ok value, state) := rfl

@[simp]
theorem perform_throw (exception : Exception) (state : State) :
    perform (throw exception : Procedure Exception State A) state = (.error exception, state) := rfl

@[simp]
theorem perform_get (state : State) :
    perform (get : Procedure Exception State State) state = (.ok state, state) := rfl

@[simp]
theorem perform_modify (update : State → State) (state : State) :
    perform (modify update : Procedure Exception State PUnit) state = (.ok ⟨⟩, update state) := rfl

theorem perform_bind (first : Procedure Exception State A) (rest : A → Procedure Exception State B)
    (state : State) :
    perform (first >>= rest) state =
      match perform first state with
      | (.ok value, after) => perform (rest value) after
      | (.error exception, after) => (.error exception, after) := by
  change StateT.run (ExceptT.run (first >>= rest)) state = _
  rw [ExceptT.run_bind, StateT.run_bind]
  unfold perform
  rcases (StateT.run (ExceptT.run first) state) with ⟨_ | _, _⟩ <;> rfl

theorem perform_map (f : A → B) (procedure : Procedure Exception State A) (state : State) :
    perform (f <$> procedure) state =
      match perform procedure state with
      | (.ok value, after) => (.ok (f value), after)
      | (.error exception, after) => (.error exception, after) := by
  rw [← bind_pure_comp, perform_bind]
  rcases perform procedure state with ⟨_ | _, _⟩ <;> rfl

theorem perform_bind_ok {first : Procedure Exception State A} {rest : A → Procedure Exception State B}
    {state final : State} {result : B} (ran : perform (first >>= rest) state = (.ok result, final)) :
    ∃ value after, perform first state = (.ok value, after) ∧
      perform (rest value) after = (.ok result, final) := by
  rw [perform_bind] at ran
  split at ran
  next value after started => exact ⟨value, after, started, ran⟩
  next => cases ran

def Frames {View : Type} (view : State → View) (procedure : Procedure Exception State A) : Prop :=
  ∀ state, view (perform procedure state).2 = view state

theorem Frames.bind {View : Type} {view : State → View} {first : Procedure Exception State A} {rest : A → Procedure Exception State B}
    (before : Frames view first) (after : ∀ value, Frames view (rest value)) :
    Frames view (first >>= rest) := by
  intro state
  have kept := before state
  rw [perform_bind]
  rcases started : perform first state with ⟨_ | value, reached⟩
  · simpa [started] using kept
  · rw [started] at kept
    exact (after value reached).trans kept

end Execution
