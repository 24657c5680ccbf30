import Pirks.Foundation.Monitor

set_option autoImplicit false

namespace Monitor

variable {Shared Call Reply SpecState Observation : Type}

-- A call that returns, with whether it does so because its time is up; a wait is no effect.
def returned? (executed : Section Shared Call Reply) : Option ((Call × Bool) × Reply) :=
  match executed.result.outcome with
  | .waits => none
  | .returned reply => some ((executed.call, decide (executed.entry = .resume true)), reply)

structure Specification (Shared Call Reply SpecState Observation : Type) where
  step : SpecState → Call × Bool → Option (SpecState × List Observation)
  Matches : Reply → Observation → Prop
  Represents : Shared → SpecState → Prop

structure Linearizes (spec : Specification Shared Call Reply SpecState Observation) (initial : SpecState)
    (shared : Shared) (log : List (Section Shared Call Reply)) (state : SpecState)
    (expected : List Observation) : Prop where
  ran : Machine.run spec.step initial ((log.filterMap returned?).map Prod.fst) = some (state, expected)
  answered : List.Forall₂ spec.Matches ((log.filterMap returned?).map Prod.snd) expected
  represents : spec.Represents shared state
  waits : ∀ executed ∈ log, returned? executed = none → executed.result.shared = executed.before

variable {program : Program Shared Call Reply} {Allowed : Call → Prop}
variable {spec : Specification Shared Call Reply SpecState Observation} {initial : SpecState}

def Specification.Simulates (spec : Specification Shared Call Reply SpecState Observation)
    (program : Program Shared Call Reply) (Allowed : Call → Prop) : Prop :=
  ∀ call entry before abstract, Allowed call → entry.Legal program call → spec.Represents before abstract →
    ((program.critical call entry before).outcome = .waits → (program.critical call entry before).shared = before) ∧
    ∀ reply, (program.critical call entry before).outcome = .returned reply →
      ∃ next observation, spec.step abstract (call, decide (entry = .resume true)) = some (next, [observation]) ∧
        spec.Matches reply observation ∧ spec.Represents (program.critical call entry before).shared next

theorem Linearizes.section {shared : Shared} {log : List (Section Shared Call Reply)}
    {state : SpecState} {expected : List Observation} (simulates : spec.Simulates program Allowed)
    (linearizes : Linearizes spec initial shared log state expected) (thread : Nat) {call : Call} {entry : Entry}
    (allowed : Allowed call) (legal : entry.Legal program call) :
    ∃ state' expected', Linearizes spec initial (program.critical call entry shared).shared
      (log ++ [⟨thread, call, entry, shared, program.critical call entry shared⟩]) state' expected' := by
  obtain ⟨unchanged, steps⟩ := simulates call entry shared state allowed legal linearizes.represents
  cases outcome : (program.critical call entry shared).outcome with
  | waits =>
    have same := unchanged outcome
    have none_ : returned? ⟨thread, call, entry, shared, program.critical call entry shared⟩ = none := by
      simp [returned?, outcome]
    refine ⟨state, expected, ?_, ?_, ?_, ?_⟩
    · simpa [List.filterMap_append, none_] using linearizes.ran
    · simpa [List.filterMap_append, none_] using linearizes.answered
    · rw [same]
      exact linearizes.represents
    · intro executed member
      rcases List.mem_append.mp member with old | new
      · exact linearizes.waits executed old
      · obtain rfl := List.mem_singleton.mp new
        exact fun _ => same
  | returned reply =>
    obtain ⟨next, observation, stepped, fits, represents⟩ := steps reply outcome
    have some_ : returned? ⟨thread, call, entry, shared, program.critical call entry shared⟩ =
        some ((call, decide (entry = .resume true)), reply) := by
      simp [returned?, outcome]
    refine ⟨next, expected ++ [observation], ?_, ?_, represents, ?_⟩
    · simpa [List.filterMap_append, some_] using Machine.run_snoc linearizes.ran stepped
    · simpa [List.filterMap_append, some_] using List.rel_append linearizes.answered (.cons fits .nil)
    · intro executed member none_
      rcases List.mem_append.mp member with old | new
      · exact linearizes.waits executed old none_
      · obtain rfl := List.mem_singleton.mp new
        rw [some_] at none_
        cases none_

theorem exec_linearizes (simulates : spec.Simulates program Allowed) {shared : Shared}
    {final : State Shared Call} {actions : List (Action Call)} {log : List (Section Shared Call Reply)}
    (permitted : ∀ action ∈ actions, action.Makes Allowed) (represents : spec.Represents shared initial)
    (ran : exec program (start shared) actions = some (final, log)) :
    ∃ state expected, Linearizes spec initial final.shared log state expected := by
  refine exec_history (fun shared log => ∃ state expected, Linearizes spec initial shared log state expected)
    ?_ permitted ⟨initial, [], rfl, .nil, represents, by simp⟩ ran
  rintro thread call entry before log allowed legal ⟨state, expected, linearizes⟩
  exact linearizes.section simulates thread allowed legal

end Monitor
