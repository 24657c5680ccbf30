import Mathlib.Logic.Function.Basic
import Pirks.Foundation.Machine

set_option autoImplicit false

namespace Monitor

variable {Shared Call Reply : Type}

/-- A critical section starts when a call takes the mutex, or when a waiter takes it back. -/
inductive Entry where
  | enter
  | resume (timedOut : Bool)
  deriving DecidableEq

theorem Entry.enter_inTime : Entry.enter ≠ .resume true := by simp

inductive Outcome (Reply : Type) where
  | returned (reply : Reply)
  | waits
  deriving DecidableEq

structure Result (Shared Reply : Type) where
  shared : Shared
  notifies : Bool
  outcome : Outcome Reply

structure Program (Shared Call Reply : Type) where
  timed : Call → Bool
  critical : Call → Entry → Shared → Result Shared Reply

inductive Phase (Call : Type) where
  | idle
  | waiting (call : Call) (notified : Bool)
  -- Out of the wait set, competing for the mutex.
  | awake (call : Call) (timedOut : Bool)
  deriving DecidableEq

def Phase.notify : Phase Call → Phase Call
  | .waiting call _ => .waiting call true
  | phase => phase

-- Threads are numbers, so that any number of them can take part.
structure State (Shared Call : Type) where
  shared : Shared
  phase : Nat → Phase Call

def start (shared : Shared) : State Shared Call := { shared, phase := fun _ => .idle }

inductive Action (Call : Type) where
  | enter (thread : Nat) (call : Call)
  | wake (thread : Nat)
  | expire (thread : Nat)
  | resume (thread : Nat)

structure Section (Shared Call Reply : Type) where
  thread : Nat
  call : Call
  entry : Entry
  before : Shared
  result : Result Shared Reply

def Result.phase (result : Result Shared Reply) (call : Call) : Phase Call :=
  match result.outcome with
  | .returned _ => .idle
  | .waits => .waiting call false

def notifyAll (phase : Nat → Phase Call) (notifies : Bool) : Nat → Phase Call :=
  if notifies then fun thread => (phase thread).notify else phase

def executed (program : Program Shared Call Reply) (state : State Shared Call) (thread : Nat)
    (call : Call) (entry : Entry) : Section Shared Call Reply :=
  ⟨thread, call, entry, state.shared, program.critical call entry state.shared⟩

def commit (program : Program Shared Call Reply) (state : State Shared Call) (thread : Nat)
    (call : Call) (entry : Entry) : State Shared Call :=
  let result := program.critical call entry state.shared
  { shared := result.shared
    phase := Function.update (notifyAll state.phase result.notifies) thread (result.phase call) }

def rouse (state : State Shared Call) (thread : Nat) (call : Call) (timedOut : Bool) :
    State Shared Call :=
  { state with phase := Function.update state.phase thread (.awake call timedOut) }

def step (program : Program Shared Call Reply) (state : State Shared Call) :
    Action Call → Option (State Shared Call × List (Section Shared Call Reply))
  | .enter thread call =>
      match state.phase thread with
      | .idle => some (commit program state thread call .enter, [executed program state thread call .enter])
      | _ => none
  -- A waiter wakes up after a notification, and spuriously without one.
  | .wake thread =>
      match state.phase thread with
      | .waiting call _ => some (rouse state thread call false, [])
      | _ => none
  -- The deadline passes in the wait set or on the way back to the mutex.
  | .expire thread =>
      match state.phase thread with
      | .waiting call _ | .awake call _ =>
          if program.timed call then some (rouse state thread call true, []) else none
      | .idle => none
  | .resume thread =>
      match state.phase thread with
      | .awake call timedOut =>
          some (commit program state thread call (.resume timedOut),
            [executed program state thread call (.resume timedOut)])
      | _ => none

abbrev exec (program : Program Shared Call Reply) := Machine.run (step program)

@[simp]
theorem commit_shared (program : Program Shared Call Reply) (state : State Shared Call)
    (thread : Nat) (call : Call) (entry : Entry) :
    (commit program state thread call entry).shared =
      (program.critical call entry state.shared).shared := rfl

@[simp]
theorem commit_phase_self (program : Program Shared Call Reply) (state : State Shared Call)
    (thread : Nat) (call : Call) (entry : Entry) :
    (commit program state thread call entry).phase thread =
      (program.critical call entry state.shared).phase call := by
  simp [commit]

theorem commit_phase_other (program : Program Shared Call Reply) (state : State Shared Call)
    {thread other : Nat} (distinct : other ≠ thread) (call : Call) (entry : Entry) :
    (commit program state thread call entry).phase other =
      notifyAll state.phase (program.critical call entry state.shared).notifies other := by
  simp [commit, Function.update_of_ne distinct]

@[simp]
theorem rouse_shared (state : State Shared Call) (thread : Nat) (call : Call) (timedOut : Bool) :
    (rouse state thread call timedOut).shared = state.shared := rfl

@[simp]
theorem rouse_phase_self (state : State Shared Call) (thread : Nat) (call : Call) (timedOut : Bool) :
    (rouse state thread call timedOut).phase thread = .awake call timedOut := by
  simp [rouse]

theorem rouse_phase_other (state : State Shared Call) {thread other : Nat}
    (distinct : other ≠ thread) (call : Call) (timedOut : Bool) :
    (rouse state thread call timedOut).phase other = state.phase other := by
  simp [rouse, Function.update_of_ne distinct]

def Action.Makes (Allowed : Call → Prop) : Action Call → Prop
  | .enter _ call => Allowed call
  | _ => True

theorem makes_any {actions : List (Action Call)} :
    ∀ action ∈ actions, action.Makes fun _ => True := by
  intro action _
  cases action <;> trivial

def Legal (program : Program Shared Call Reply) (Allowed : Call → Prop) : Phase Call → Prop
  | .idle => True
  | .waiting call _ => Allowed call
  | .awake call timedOut => Allowed call ∧ (timedOut = true → program.timed call = true)

def Entry.Legal (program : Program Shared Call Reply) (call : Call) (entry : Entry) : Prop :=
  entry = .resume true → program.timed call = true

variable {program : Program Shared Call Reply} {Allowed : Call → Prop}

theorem Legal.notifyAll {phase : Nat → Phase Call} (legal : ∀ thread, Legal program Allowed (phase thread))
    (notifies : Bool) (thread : Nat) : Legal program Allowed (notifyAll phase notifies thread) := by
  have here := legal thread
  cases notifies
  · exact here
  · cases at_ : phase thread <;> simp_all [Monitor.notifyAll, Phase.notify, Legal]

inductive Began (state : State Shared Call) : Action Call → Nat → Call → Entry → Prop where
  | enter {thread : Nat} {call : Call} (idle : state.phase thread = .idle) :
      Began state (.enter thread call) thread call .enter
  | resume {thread : Nat} {call : Call} {timedOut : Bool} (awake : state.phase thread = .awake call timedOut) :
      Began state (.resume thread) thread call (.resume timedOut)

inductive Roused (program : Program Shared Call Reply) (state : State Shared Call) :
    Action Call → Nat → Call → Bool → Prop where
  | wake {thread : Nat} {call : Call} {notified : Bool}
      (waiting : state.phase thread = .waiting call notified) :
      Roused program state (.wake thread) thread call false
  | expire {thread : Nat} {call : Call} {notified : Bool}
      (waiting : state.phase thread = .waiting call notified) (timed : program.timed call = true) :
      Roused program state (.expire thread) thread call true
  | expireAwake {thread : Nat} {call : Call} {timedOut : Bool}
      (awake : state.phase thread = .awake call timedOut) (timed : program.timed call = true) :
      Roused program state (.expire thread) thread call true

-- All that a step can do: run one critical section, or move a thread out of the wait set.
theorem step_cases {state next : State Shared Call} {action : Action Call}
    {new : List (Section Shared Call Reply)} (taken : step program state action = some (next, new)) :
    (∃ thread call entry, Began state action thread call entry ∧
      next = commit program state thread call entry ∧ new = [executed program state thread call entry]) ∨
    (∃ thread call timedOut, Roused program state action thread call timedOut ∧
      next = rouse state thread call timedOut ∧ new = []) := by
  cases action with
  | enter thread call =>
    simp only [step] at taken
    split at taken
    next idle =>
      cases taken
      exact .inl ⟨thread, call, .enter, .enter idle, rfl, rfl⟩
    next => cases taken
  | wake thread =>
    simp only [step] at taken
    split at taken
    next call notified waiting =>
      cases taken
      exact .inr ⟨thread, call, false, .wake waiting, rfl, rfl⟩
    next => cases taken
  | expire thread =>
    simp only [step] at taken
    split at taken
    next call notified waiting =>
      split at taken
      next timed =>
        cases taken
        exact .inr ⟨thread, call, true, .expire waiting timed, rfl, rfl⟩
      next => cases taken
    next call timedOut awake =>
      split at taken
      next timed =>
        cases taken
        exact .inr ⟨thread, call, true, .expireAwake awake timed, rfl, rfl⟩
      next => cases taken
    next => cases taken
  | resume thread =>
    simp only [step] at taken
    split at taken
    next call timedOut awake =>
      cases taken
      exact .inl ⟨thread, call, .resume timedOut, .resume awake, rfl, rfl⟩
    next => cases taken

theorem Began.unique {state : State Shared Call} {action : Action Call} {thread other : Nat} {call call' : Call}
    {entry entry' : Entry} (began : Began state action thread call entry)
    (again : Began state action other call' entry') : other = thread ∧ call' = call ∧ entry' = entry := by
  cases began with
  | enter idle =>
    cases again
    exact ⟨rfl, rfl, rfl⟩
  | resume awake =>
    cases again with
    | resume found =>
      have same := awake.symm.trans found
      cases same
      exact ⟨rfl, rfl, rfl⟩

theorem Began.not_waiting {state : State Shared Call} {action : Action Call} {thread : Nat} {call asleep : Call}
    {entry : Entry} {notified : Bool} (began : Began state action thread call entry) :
    state.phase thread ≠ .waiting asleep notified := by
  intro found
  cases began with
  | enter idle => rw [idle] at found; cases found
  | resume awake => rw [awake] at found; cases found

theorem commit_unnotified_iff (state : State Shared Call) (thread other : Nat) (call asleep : Call) (entry : Entry) :
    (commit program state thread call entry).phase other = .waiting asleep false ↔
      if other = thread then
        (program.critical call entry state.shared).outcome = .waits ∧ call = asleep
      else
        (program.critical call entry state.shared).notifies = false ∧
          state.phase other = .waiting asleep false := by
  split
  next same =>
    subst same
    rw [commit_phase_self]
    cases outcome : (program.critical call entry state.shared).outcome <;> simp [Result.phase, outcome]
  next other_ =>
    rw [commit_phase_other program state other_]
    cases notifies : (program.critical call entry state.shared).notifies with
    | false => simp [notifyAll]
    | true => cases at_ : state.phase other <;> simp [notifyAll, Phase.notify, at_]

theorem Began.allowed {state : State Shared Call} {action : Action Call} {thread : Nat} {call : Call}
    {entry : Entry} (began : Began state action thread call entry) (permitted : action.Makes Allowed)
    (legal : ∀ thread, Legal program Allowed (state.phase thread)) :
    Allowed call ∧ entry.Legal program call := by
  cases began with
  | enter idle => exact ⟨permitted, by simp [Entry.Legal]⟩
  | resume awake =>
    have here := legal thread
    rw [awake] at here
    refine ⟨here.1, fun same => here.2 ?_⟩
    cases same
    rfl

theorem Roused.legal {state : State Shared Call} {action : Action Call} {thread : Nat} {call : Call}
    {timedOut : Bool} (roused : Roused program state action thread call timedOut)
    (legal : ∀ thread, Legal program Allowed (state.phase thread)) :
    Legal program Allowed (.awake call timedOut) := by
  have here := legal thread
  cases roused with
  | wake waiting =>
    rw [waiting] at here
    exact ⟨here, by simp⟩
  | expire waiting timed =>
    rw [waiting] at here
    exact ⟨here, fun _ => timed⟩
  | expireAwake awake timed =>
    rw [awake] at here
    exact ⟨here.1, fun _ => timed⟩

theorem commit_legal {state : State Shared Call} {call : Call} {entry : Entry}
    (legal : ∀ thread, Legal program Allowed (state.phase thread))
    (permitted : (program.critical call entry state.shared).outcome = .waits → Allowed call)
    (thread other : Nat) :
    Legal program Allowed ((commit program state thread call entry).phase other) := by
  by_cases same : other = thread
  · subst same
    rw [commit_phase_self]
    cases outcome : (program.critical call entry state.shared).outcome with
    | returned reply => simp [Result.phase, outcome, Legal]
    | waits => simpa [Result.phase, outcome, Legal] using permitted outcome
  · rw [commit_phase_other program state same]
    exact Legal.notifyAll legal _ other

theorem rouse_legal {state : State Shared Call} {thread : Nat} {call : Call} {timedOut : Bool}
    (legal : ∀ thread, Legal program Allowed (state.phase thread))
    (awake : Legal program Allowed (.awake call timedOut)) (other : Nat) :
    Legal program Allowed ((rouse state thread call timedOut).phase other) := by
  by_cases same : other = thread
  · subst same
    simpa using awake
  · rw [rouse_phase_other state same]
    exact legal other

theorem start_legal (shared : Shared) (thread : Nat) :
    Legal program Allowed ((start shared).phase thread) := trivial

section Invariants

variable (Inv : Shared → Prop)

theorem exec_sections (Good : Section Shared Call Reply → Prop)
    (preserved : ∀ call entry before, Allowed call → entry.Legal program call → Inv before →
      Inv (program.critical call entry before).shared ∧
        ∀ thread, Good ⟨thread, call, entry, before, program.critical call entry before⟩)
    {shared : Shared} {final : State Shared Call} {actions : List (Action Call)}
    {log : List (Section Shared Call Reply)} (permitted : ∀ action ∈ actions, action.Makes Allowed)
    (initial : Inv shared) (ran : exec program (start shared) actions = some (final, log)) :
    Inv final.shared ∧ ∀ executed ∈ log, Good executed := by
  have kept := Machine.run_records
    (fun state : State Shared Call =>
      Inv state.shared ∧ ∀ thread, Legal program Allowed (state.phase thread))
    Good
    (by
      rintro state action next new allowed ⟨inv, legal⟩ taken
      rcases step_cases taken with
        ⟨thread, call, entry, began, rfl, rfl⟩ | ⟨thread, call, timedOut, roused, rfl, rfl⟩
      · obtain ⟨callAllowed, entryLegal⟩ := began.allowed allowed legal
        obtain ⟨after, good⟩ := preserved call entry state.shared callAllowed entryLegal inv
        exact ⟨⟨after, commit_legal legal (fun _ => callAllowed) thread⟩,
          by simpa [executed] using good thread⟩
      · exact ⟨⟨inv, rouse_legal legal (roused.legal legal)⟩, by simp⟩)
    permitted ⟨initial, start_legal shared⟩ ran
  exact ⟨kept.1.1, kept.2⟩

theorem exec_history (Holds : Shared → List (Section Shared Call Reply) → Prop)
    (preserved : ∀ thread call entry before log, Allowed call → entry.Legal program call →
      Holds before log →
      Holds (program.critical call entry before).shared
        (log ++ [⟨thread, call, entry, before, program.critical call entry before⟩]))
    {shared : Shared} {final : State Shared Call} {actions : List (Action Call)}
    {log : List (Section Shared Call Reply)} (permitted : ∀ action ∈ actions, action.Makes Allowed)
    (initial : Holds shared []) (ran : exec program (start shared) actions = some (final, log)) :
    Holds final.shared log := by
  have kept := Machine.run_preserves
    (fun (state : State Shared Call) past =>
      Holds state.shared past ∧ ∀ thread, Legal program Allowed (state.phase thread))
    (by
      rintro state past action next new allowed ⟨holds, legal⟩ taken
      rcases step_cases taken with
        ⟨thread, call, entry, began, rfl, rfl⟩ | ⟨thread, call, timedOut, roused, rfl, rfl⟩
      · obtain ⟨callAllowed, entryLegal⟩ := began.allowed allowed legal
        have after := preserved thread call entry state.shared past callAllowed entryLegal holds
        exact ⟨after, commit_legal legal (fun _ => callAllowed) thread⟩
      · exact ⟨by simpa using holds, rouse_legal legal (roused.legal legal)⟩)
    [] permitted ⟨initial, start_legal shared⟩ ran
  simpa using kept.1

/-- No lost wake-up: a wait is entered only when `Quiet` holds, and a section that ends `Quiet`
notifies, so a waiter that nobody has notified finds `Quiet` as it left it. -/
theorem unnotified_quiet (Quiet : Shared → Prop)
    (preserved : ∀ call entry before, Allowed call → entry.Legal program call → Inv before →
      Inv (program.critical call entry before).shared)
    (waits : ∀ call entry before, Allowed call → entry.Legal program call → Inv before →
      (program.critical call entry before).outcome = .waits →
      Quiet (program.critical call entry before).shared)
    (silent : ∀ call entry before, Allowed call → entry.Legal program call → Inv before →
      (program.critical call entry before).notifies = false → Quiet before →
      Quiet (program.critical call entry before).shared)
    {shared : Shared} {final : State Shared Call} {actions : List (Action Call)}
    {log : List (Section Shared Call Reply)} (permitted : ∀ action ∈ actions, action.Makes Allowed)
    (initial : Inv shared) (ran : exec program (start shared) actions = some (final, log))
    {thread : Nat} {call : Call} (waiter : final.phase thread = .waiting call false) :
    Quiet final.shared := by
  let Waits (state : State Shared Call) : Prop :=
    ∀ thread call, state.phase thread = .waiting call false → Quiet state.shared
  have kept := Machine.run_preserves
    (fun (state : State Shared Call) (_ : List (Section Shared Call Reply)) =>
      Inv state.shared ∧ (∀ thread, Legal program Allowed (state.phase thread)) ∧ Waits state)
    (by
      rintro state past action next new allowed ⟨inv, legal, quiet⟩ taken
      rcases step_cases taken with
        ⟨thread, call, entry, began, rfl, rfl⟩ | ⟨thread, call, timedOut, roused, rfl, rfl⟩
      · obtain ⟨callAllowed, entryLegal⟩ := began.allowed allowed legal
        refine ⟨preserved call entry state.shared callAllowed entryLegal inv,
          commit_legal legal (fun _ => callAllowed) thread, fun other otherCall found => ?_⟩
        rw [commit_unnotified_iff] at found
        split at found
        · exact waits call entry state.shared callAllowed entryLegal inv found.1
        · exact silent call entry state.shared callAllowed entryLegal inv found.1
            (quiet other otherCall found.2)
      · refine ⟨inv, rouse_legal legal (roused.legal legal), fun other otherCall found => ?_⟩
        by_cases same : other = thread
        · subst same
          simp at found
        · rw [rouse_phase_other state same] at found
          exact quiet other otherCall found)
    [] permitted ⟨initial, start_legal shared, fun _ _ found => by simp [start] at found⟩ ran
  exact kept.2.2 thread call waiter

end Invariants

end Monitor
