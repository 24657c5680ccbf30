import Mathlib.Data.List.Forall2
import Mathlib.Tactic.Common

set_option autoImplicit false

namespace Machine

variable {State Action Record : Type}

/-- A step may be refused; a step that is taken appends records to the log of the run. -/
def run (step : State → Action → Option (State × List Record)) :
    State → List Action → Option (State × List Record)
  | state, [] => some (state, [])
  | state, action :: rest =>
      match step state action with
      | none => none
      | some (next, new) =>
          match run step next rest with
          | none => none
          | some (final, later) => some (final, new ++ later)

variable {step : State → Action → Option (State × List Record)}

@[simp]
theorem run_nil (state : State) : run step state [] = some (state, []) := rfl

theorem run_cons {state final : State} {action : Action} {rest : List Action} {log : List Record} :
    run step state (action :: rest) = some (final, log) ↔
      ∃ next new later, step state action = some (next, new) ∧
        run step next rest = some (final, later) ∧ log = new ++ later := by
  rw [run]
  rcases stepped : step state action with _ | ⟨next, new⟩
  · simp
  · rcases followed : run step next rest with _ | ⟨last, later⟩
    · simp [followed]
    · simp [followed, eq_comm]

theorem run_append {state middle final : State} {actions others : List Action} {log later : List Record}
    (ran : run step state actions = some (middle, log)) (followed : run step middle others = some (final, later)) :
    run step state (actions ++ others) = some (final, log ++ later) := by
  induction actions generalizing state log with
  | nil =>
    simp only [run_nil, Option.some.injEq, Prod.mk.injEq] at ran
    obtain ⟨rfl, rfl⟩ := ran
    exact followed
  | cons first rest ih =>
    obtain ⟨next, fresh, last, moved, went, rfl⟩ := run_cons.mp ran
    exact run_cons.mpr ⟨next, fresh, last ++ later, moved, ih went, by simp⟩

theorem run_snoc {state middle final : State} {actions : List Action} {action : Action} {log new : List Record}
    (ran : run step state actions = some (middle, log)) (taken : step middle action = some (final, new)) :
    run step state (actions ++ [action]) = some (final, log ++ new) :=
  run_append ran (run_cons.mpr ⟨final, new, [], taken, rfl, by simp⟩)

theorem run_preserves {Allowed : Action → Prop} (Holds : State → List Record → Prop)
    (preserved : ∀ state log action next new, Allowed action → Holds state log →
      step state action = some (next, new) → Holds next (log ++ new))
    {state final : State} (past : List Record) {log : List Record} {actions : List Action}
    (allowed : ∀ action ∈ actions, Allowed action) (initial : Holds state past)
    (ran : run step state actions = some (final, log)) : Holds final (past ++ log) := by
  induction actions generalizing state past log with
  | nil =>
    simp only [run_nil, Option.some.injEq, Prod.mk.injEq] at ran
    obtain ⟨rfl, rfl⟩ := ran
    simpa using initial
  | cons action rest ih =>
    obtain ⟨next, new, later, taken, followed, rfl⟩ := run_cons.mp ran
    have here := preserved state past action next new (allowed action (by simp)) initial taken
    have there := ih (past ++ new) (fun other member => allowed other (by simp [member])) here followed
    simpa using there

theorem run_records {Allowed : Action → Prop} (Inv : State → Prop) (Good : Record → Prop)
    (preserved : ∀ state action next new, Allowed action → Inv state →
      step state action = some (next, new) → Inv next ∧ ∀ record ∈ new, Good record)
    {state final : State} {log : List Record} {actions : List Action}
    (allowed : ∀ action ∈ actions, Allowed action) (initial : Inv state)
    (ran : run step state actions = some (final, log)) :
    Inv final ∧ ∀ record ∈ log, Good record := by
  have kept := run_preserves (fun current past => Inv current ∧ ∀ record ∈ past, Good record)
    (by
      rintro current past action next new permitted ⟨inv, good⟩ taken
      obtain ⟨after, fresh⟩ := preserved current action next new permitted inv taken
      refine ⟨after, fun record member => ?_⟩
      rcases List.mem_append.mp member with old | recent
      · exact good record old
      · exact fresh record recent)
    [] allowed ⟨initial, by simp⟩ ran
  simpa using kept

/-- When a step from a good state is good exactly if its record is fit, a run is good throughout exactly
if every record of it is. -/
theorem run_good_iff (Good : State → Prop) (Fit : Record → Prop) (reached : Record → State)
    (exactly : ∀ state action next new, Good state → step state action = some (next, new) →
      ∃ record, new = [record] ∧ reached record = next ∧ (Good next ↔ Fit record))
    {state final : State} {actions : List Action} {log : List Record} (good : Good state)
    (ran : run step state actions = some (final, log)) :
    (∀ record ∈ log, Good (reached record)) ↔ ∀ record ∈ log, Fit record := by
  induction actions generalizing state log with
  | nil =>
    simp only [run_nil, Option.some.injEq, Prod.mk.injEq] at ran
    obtain ⟨rfl, rfl⟩ := ran
    simp
  | cons action rest ih =>
    obtain ⟨next, new, later, taken, followed, rfl⟩ := run_cons.mp ran
    obtain ⟨record, rfl, rfl, here⟩ := exactly state action next new good taken
    simp only [List.cons_append, List.nil_append, List.forall_mem_cons]
    rw [here]
    exact and_congr_right fun fit => ih (here.mpr fit) followed

theorem run_fit (Inv : State → Prop) (Fit Good : Record → Prop)
    (preserved : ∀ state action next new, Inv state → step state action = some (next, new) →
      (∀ record ∈ new, Fit record) → Inv next ∧ ∀ record ∈ new, Good record)
    {state final : State} {actions : List Action} {log : List Record} (initial : Inv state)
    (ran : run step state actions = some (final, log)) (fit : ∀ record ∈ log, Fit record) :
    ∀ record ∈ log, Good record := by
  induction actions generalizing state log with
  | nil =>
    simp only [run_nil, Option.some.injEq, Prod.mk.injEq] at ran
    obtain ⟨rfl, rfl⟩ := ran
    simp
  | cons action rest ih =>
    obtain ⟨next, new, later, taken, followed, rfl⟩ := run_cons.mp ran
    obtain ⟨here, there⟩ := List.forall_mem_append.mp fit
    obtain ⟨inv, good⟩ := preserved state action next new initial taken here
    exact List.forall_mem_append.mpr ⟨good, ih inv followed there⟩

structure Move (State Action : Type) where
  before : State
  action : Action
  after : State

def watch (step : State → Action → Option (State × List Record)) (state : State) (action : Action) :
    Option (State × List (Move State Action)) :=
  (step state action).map fun taken => (taken.1, [⟨state, action, taken.1⟩])

theorem watch_taken {state next : State} {action : Action} {moves : List (Move State Action)}
    (taken : watch step state action = some (next, moves)) :
    (∃ new, step state action = some (next, new)) ∧ moves = [⟨state, action, next⟩] := by
  obtain ⟨⟨reached, new⟩, stepped, same⟩ := Option.map_eq_some_iff.mp taken
  cases same
  exact ⟨⟨new, stepped⟩, rfl⟩

theorem recorded_taken {reached : Option State} {record : State → Record} {next : State} {new : List Record}
    (taken : (reached.map fun after => (after, [record after])) = some (next, new)) :
    reached = some next ∧ new = [record next] := by
  obtain ⟨after, applied, same⟩ := Option.map_eq_some_iff.mp taken
  cases same
  exact ⟨applied, rfl⟩

variable {SpecState SpecRecord : Type}
variable {spec : SpecState → Action → Option (SpecState × List SpecRecord)}

theorem run_simulates (Related : State → SpecState → Prop) (Matches : Record → SpecRecord → Prop)
    (matched : ∀ state abstract action abstract' expected, Related state abstract →
      spec abstract action = some (abstract', expected) →
      ∃ next new, step state action = some (next, new) ∧ Related next abstract' ∧
        List.Forall₂ Matches new expected)
    {state : State} {abstract abstract' : SpecState} {actions : List Action}
    {expected : List SpecRecord} (related : Related state abstract)
    (ran : run spec abstract actions = some (abstract', expected)) :
    ∃ final log, run step state actions = some (final, log) ∧ Related final abstract' ∧
      List.Forall₂ Matches log expected := by
  induction actions generalizing state abstract expected with
  | nil =>
    simp only [run_nil, Option.some.injEq, Prod.mk.injEq] at ran
    obtain ⟨rfl, rfl⟩ := ran
    exact ⟨state, [], rfl, related, .nil⟩
  | cons action rest ih =>
    obtain ⟨middle, first, later, taken, followed, rfl⟩ := run_cons.mp ran
    obtain ⟨next, new, moved, nextRelated, firstMatches⟩ :=
      matched state abstract action middle first related taken
    obtain ⟨final, log, ended, finalRelated, laterMatches⟩ := ih nextRelated followed
    exact ⟨final, new ++ log, run_cons.mpr ⟨next, new, log, moved, ended, rfl⟩, finalRelated,
      List.rel_append firstMatches laterMatches⟩

end Machine
