import Pirks.Foundation.ClockedMonitor
import Pirks.Common.CircularBufferThreads

set_option autoImplicit false

namespace Pirks

def Call.budget {T : Type} : Call T → Option Int
  | .peekFor delay | .popFor delay | .popBatchFor _ _ delay => some delay
  | _ => none

namespace CircularBuffer

open Monitor (Entry)

variable {T : Type} [Element T]

def armedWith (call : Call T) : Option Int := (blocking? call).bind Blocking.delay

abbrev Timed (T : Type) := ClockedMonitor.Record (CircularBuffer T) (Call T) (Answer T)

/-- The time waited so far, and the wait that is armed now, stay within the delay of the call. -/
def WithinBudget (record : Timed T) : Prop :=
  ∀ delay wait, record.executed.call.budget = some delay → armedWith record.executed.call = some wait →
    record.executed.result.outcome = .waits → (record.waited : Int) + wait ≤ delay

def WokenAtOnce (record : Timed T) : Prop :=
  record.executed.entry = .resume false → record.executed.call.budget.isSome →
    record.executed.before.active = true →
    record.executed.before.startIndex = record.executed.before.endIndex → record.waited = 0

theorem armedWith_eq (call : Call T) : armedWith call = call.budget := by
  cases call <;> rfl

variable {size capacity : Nat} {b : CircularBuffer T} {queue : List T}

theorem timed_waits_iff (holds : Holds size capacity b queue) {call : Call T} (entry : Entry)
    (timed : call.budget.isSome) :
    (program.critical call entry b).outcome = .waits ↔
      entry ≠ .resume true ∧ b.active = true ∧ b.startIndex = b.endIndex := by
  obtain ⟨blocking, blocks⟩ : ∃ blocking, blocking? call = some blocking := by
    cases call <;> first | exact ⟨_, rfl⟩ | cases timed
  constructor
  next =>
    intro waits
    have effect := critical_effect holds call entry
    generalize program.critical call entry b = result at effect waits
    cases effect with
    | slept _ _ inTime active empty => exact ⟨inTime, active, holds.empty_iff.mpr empty⟩
    | _ => cases waits
  next =>
    rintro ⟨inTime, active, empty⟩
    rw [critical_slept blocks inTime active empty]

theorem budget_kept_iff (c : Nat) (reserved : Reserved ((c + 1) % sizeModulus))
    (actions : List (ClockedMonitor.Action (Call T)))
    (final : ClockedMonitor.State (CircularBuffer T) (Call T)) (log : List (Timed T))
    (ran : ClockedMonitor.exec program armedWith (ClockedMonitor.start (construct c reserved)) actions =
      some (final, log)) :
    (∀ record ∈ log, WithinBudget record) ↔ ∀ record ∈ log, WokenAtOnce record := by
  have waits := (exec_kept
    (fun executed => executed.call.budget.isSome → (executed.result.outcome = .waits ↔
      executed.entry ≠ .resume true ∧ executed.before.active = true ∧
        executed.before.startIndex = executed.before.endIndex))
    (fun _ call entry before queue holds => timed_waits_iff holds entry)
    (ClockedMonitor.exec_erases ran)).2
  have entered := ClockedMonitor.exec_entered ran
  apply forall₂_congr
  intro record member
  have waits_iff := waits record.executed (List.mem_map_of_mem member)
  constructor
  next =>
    intro within resumed timed active empty
    obtain ⟨delay, budget⟩ := Option.isSome_iff_exists.mp timed
    have waiting := (waits_iff timed).mpr ⟨by simp [resumed], active, empty⟩
    have bound := within delay delay budget (by rw [armedWith_eq, budget]) waiting
    omega
  next =>
    intro fresh delay wait budget armed waiting
    have timed : record.executed.call.budget.isSome := by simp [budget]
    obtain ⟨inTime, active, empty⟩ := (waits_iff timed).mp waiting
    have same : wait = delay := by
      rw [armedWith_eq, budget] at armed
      exact (Option.some.inj armed).symm
    have none_ : record.waited = 0 := by
      cases entry : record.executed.entry with
      | enter => exact entered record member entry
      | resume timedOut =>
        cases timedOut with
        | true => exact absurd entry inTime
        | false => exact fresh entry timed active empty
    omega

theorem budget_kept_iff_punctual :
    ∃ final log,
      ClockedMonitor.exec program armedWith (ClockedMonitor.start (constructExact 3 : CircularBuffer Nat))
        [.act (.enter 0 (.popFor 20)), .act (.wake 0), .act (.resume 0), .elapse 20, .act (.expire 0),
          .act (.resume 0)] = some (final, log) ∧
      ((∀ record ∈ log, WithinBudget record) ↔ ∀ record ∈ log, WokenAtOnce record) := by
  obtain ⟨final, log, ran⟩ : ∃ final log,
      ClockedMonitor.exec program armedWith (ClockedMonitor.start (constructExact 3 : CircularBuffer Nat))
        [.act (.enter 0 (.popFor 20)), .act (.wake 0), .act (.resume 0), .elapse 20, .act (.expire 0),
          .act (.resume 0)] = some (final, log) := ⟨_, _, rfl⟩
  exact ⟨final, log, ran, budget_kept_iff 3 (.exact 4 (by decide)) _ final log ran⟩

-- Another consumer takes the element: after 15 ms the first one waits for 20 ms more.
theorem budget_overrun_after_theft :
    ¬∀ (c : Nat) (reserved : Reserved ((c + 1) % sizeModulus)) (actions : List (ClockedMonitor.Action (Call Nat)))
        (final : ClockedMonitor.State (CircularBuffer Nat) (Call Nat)) (log : List (Timed Nat)),
      ClockedMonitor.exec program armedWith (ClockedMonitor.start (construct c reserved)) actions =
          some (final, log) →
      ∀ record ∈ log, WithinBudget record := by
  intro always
  have within := always 3 (.exact 4 (by decide))
    [.act (.enter 0 (.popFor 20)), .elapse 15, .act (.enter 1 (.push (.copies 7))), .act (.enter 2 .pop),
      .act (.wake 0), .act (.resume 0)] _ _ rfl
  have bound := within _ (.tail _ (.tail _ (.tail _ (.head _)))) 20 20 rfl rfl rfl
  exact absurd bound (by decide)

end CircularBuffer

end Pirks
