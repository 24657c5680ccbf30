import Pirks.Foundation.Monitor

set_option autoImplicit false

namespace ClockedMonitor

variable {Shared Call Reply : Type}

/-- A monitor whose waiters keep the time: how long a call has been in waits since it was entered, and
how long its present wait lasts. -/
structure State (Shared Call : Type) where
  monitor : Monitor.State Shared Call
  waited : Nat → Nat
  armed : Nat → Nat

inductive Action (Call : Type) where
  | elapse (time : Nat)
  | act (action : Monitor.Action Call)

structure Record (Shared Call Reply : Type) where
  executed : Monitor.Section Shared Call Reply
  waited : Nat

def start (shared : Shared) : State Shared Call := ⟨Monitor.start shared, fun _ => 0, fun _ => 0⟩

def inWait : Monitor.Phase Call → Bool
  | .idle => false
  | .waiting _ _ | .awake _ _ => true

def elapse (state : State Shared Call) (time : Nat) : State Shared Call where
  monitor := state.monitor
  waited thread := state.waited thread + if inWait (state.monitor.phase thread) then time else 0
  armed thread := state.armed thread + if inWait (state.monitor.phase thread) then time else 0

def due (delay : Call → Option Int) (state : State Shared Call) : Monitor.Action Call → Bool
  | .expire thread =>
      match state.monitor.phase thread with
      | .waiting call _ | .awake call _ => (delay call).any fun limit => decide (limit ≤ (state.armed thread : Int))
      | .idle => false
  | _ => true

def spent (state : State Shared Call) (executed : Monitor.Section Shared Call Reply) : Nat :=
  match executed.entry with
  | .enter => 0
  | .resume _ => state.waited executed.thread

def settle (state : State Shared Call) (next : Monitor.State Shared Call) :
    List (Monitor.Section Shared Call Reply) → State Shared Call
  | [] => { state with monitor := next }
  | executed :: _ =>
      { monitor := next
        waited := Function.update state.waited executed.thread (spent state executed)
        armed := Function.update state.armed executed.thread 0 }

def step (program : Monitor.Program Shared Call Reply) (delay : Call → Option Int) (state : State Shared Call) :
    Action Call → Option (State Shared Call × List (Record Shared Call Reply))
  | .elapse time => some (elapse state time, [])
  | .act action =>
      if due delay state action then
        (Monitor.step program state.monitor action).map fun (next, sections) =>
          (settle state next sections, sections.map fun executed => ⟨executed, spent state executed⟩)
      else none

abbrev exec (program : Monitor.Program Shared Call Reply) (delay : Call → Option Int) :=
  Machine.run (step program delay)

def erase : Action Call → Option (Monitor.Action Call)
  | .elapse _ => none
  | .act action => some action

@[simp]
theorem settle_monitor (state : State Shared Call) (next : Monitor.State Shared Call)
    (sections : List (Monitor.Section Shared Call Reply)) : (settle state next sections).monitor = next := by
  cases sections <;> rfl

variable {program : Monitor.Program Shared Call Reply} {delay : Call → Option Int}

theorem step_act {state next : State Shared Call} {action : Monitor.Action Call}
    {new : List (Record Shared Call Reply)} (taken : step program delay state (.act action) = some (next, new)) :
    ∃ reached sections, Monitor.step program state.monitor action = some (reached, sections) ∧
      next = settle state reached sections ∧ new = sections.map fun executed => ⟨executed, spent state executed⟩ := by
  simp only [step] at taken
  split at taken
  next =>
    obtain ⟨⟨reached, sections⟩, stepped, same⟩ := Option.map_eq_some_iff.mp taken
    cases same
    exact ⟨reached, sections, stepped, rfl, rfl⟩
  next => cases taken

-- The clock decides only when a wait may time out: without it, the run is one of the monitor.
theorem exec_erases {state final : State Shared Call} {actions : List (Action Call)}
    {log : List (Record Shared Call Reply)} (ran : exec program delay state actions = some (final, log)) :
    Monitor.exec program state.monitor (actions.filterMap erase) = some (final.monitor, log.map Record.executed) := by
  induction actions generalizing state log with
  | nil =>
    cases ran
    rfl
  | cons action rest ih =>
    obtain ⟨next, new, later, taken, followed, rfl⟩ := Machine.run_cons.mp ran
    have tail := ih followed
    cases action with
    | elapse time =>
      cases taken
      exact tail
    | act action =>
      obtain ⟨reached, sections, stepped, rfl, rfl⟩ := step_act taken
      rw [settle_monitor] at tail
      apply Machine.run_cons.mpr
      exact ⟨reached, sections, later.map Record.executed, stepped, tail, by simp [Function.comp_def]⟩

theorem exec_entered {state final : State Shared Call} {actions : List (Action Call)}
    {log : List (Record Shared Call Reply)} (ran : exec program delay state actions = some (final, log)) :
    ∀ record ∈ log, record.executed.entry = .enter → record.waited = 0 := by
  refine (Machine.run_records (fun _ => True) (fun record => record.executed.entry = .enter → record.waited = 0)
    ?_ (fun _ _ => trivial) trivial ran).2
  intro state action next new _ _ taken
  refine ⟨trivial, ?_⟩
  cases action with
  | elapse time =>
    cases taken
    simp
  | act action =>
    obtain ⟨reached, sections, stepped, rfl, rfl⟩ := step_act taken
    intro record member entered
    obtain ⟨executed, -, rfl⟩ := List.mem_map.mp member
    simp only [spent] at entered ⊢
    rw [entered]

end ClockedMonitor
