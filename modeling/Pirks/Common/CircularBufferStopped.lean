import Pirks.Foundation.MonitorSchedule
import Pirks.Common.CircularBufferHistory

set_option autoImplicit false

namespace Pirks.CircularBuffer

open Execution Monitor

variable {T : Type}

def stoppedReply : Call T → Reply T
  | .push _ | .pushSpan _ | .stop => .done
  | .peek | .peekFor _ | .pop | .popFor _ => .element none
  | .popBatch outBuffer _ | .popBatchFor outBuffer _ _ => .batch 0 outBuffer
  | .isEmpty => .flag true
  | .isFull => .flag false

variable [Element T] {b : CircularBuffer T}

theorem blocking_stoppedReply {call : Call T} {blocking : Blocking T} (blocks : blocking? call = some blocking) :
    blocking.nothing = stoppedReply call := by
  cases call <;> simp only [blocking?, Option.some.injEq, reduceCtorEq] at blocks <;> subst blocks <;> rfl

theorem critical_givesUp {call : Call T} {entry : Entry} {blocking : Blocking T}
    (blocks : blocking? call = some blocking) (stopped : b.active = false) :
    program.critical call entry b = ⟨b, false, .returned (.ok (stoppedReply call))⟩ := by
  rw [critical_gaveUp blocks (.inr stopped), blocking_stoppedReply blocks]

theorem critical_untouched {A : Type} {call : Call T} {entry : Entry} {body : Critical T A} (reply : A → Reply T)
    (direct : dispatch call entry = immediate body reply) {value : A}
    (ran : perform body ⟨b, false⟩ = (.ok value, ⟨b, false⟩)) :
    program.critical call entry b = ⟨b, false, .returned (.ok (reply value))⟩ := by
  rw [critical_immediate reply direct, ran]

-- Whatever the indices and the vector are: no call looks at them any more.
theorem critical_stopped (stopped : b.active = false) (call : Call T) (entry : Entry) :
    ∃ notifies, program.critical call entry b = ⟨b, notifies, .returned (.ok (stoppedReply call))⟩ := by
  cases call with
  | push element =>
    exact ⟨false, critical_untouched (fun _ => .done) rfl (by simp [push, perform_bind, stopped]; rfl)⟩
  | pushSpan elements =>
    exact ⟨false, critical_untouched (fun _ => .done) rfl (by simp [pushSpan, perform_bind, stopped]; rfl)⟩
  | peek => exact ⟨false, critical_untouched .element rfl (by simp [peek, perform_bind, stopped])⟩
  | isEmpty => exact ⟨false, critical_untouched .flag rfl (by simp [isEmpty, perform_bind, stopped])⟩
  | isFull => exact ⟨false, critical_untouched .flag rfl (by simp [isFull, perform_bind, stopped])⟩
  | stop =>
    have same : { b with active := false } = b := by rw [← stopped]
    have left : program.critical .stop entry b = ⟨{ b with active := false }, true, .returned (.ok .done)⟩ := rfl
    exact ⟨true, by rw [left, same, stoppedReply]⟩
  | peekFor | pop | popFor | popBatch | popBatchFor =>
    exact ⟨false, critical_givesUp rfl stopped⟩

theorem critical_stop (b : CircularBuffer T) (entry : Entry) :
    program.critical .stop entry b = ⟨{ b with active := false }, true, .returned (.ok .done)⟩ := rfl

section Runs

def StoppedFor (b : CircularBuffer T) (log : List (Executed T)) : Prop :=
  ∀ earlier stopping later, log = earlier ++ stopping :: later → stopping.call = .stop →
    b = { stopping.before with active := false } ∧
    ∀ executed ∈ later, executed.before = b ∧ executed.result.shared = b ∧
      executed.result.outcome = .returned (.ok (stoppedReply executed.call))

theorem stopped_for_good (b : CircularBuffer T) (actions : List (Action (Call T)))
    (final : State (CircularBuffer T) (Call T)) (log : List (Executed T))
    (ran : Monitor.exec program (start b) actions = some (final, log)) : StoppedFor final.shared log := by
  refine Monitor.exec_history StoppedFor ?_ makes_any ?_ ran
  · intro thread call entry before log _ _ holds earlier stopping later split_ stops
    rcases List.eq_nil_or_concat later with rfl | ⟨later, last, rfl⟩
    · obtain ⟨rfl, same⟩ := List.append_inj' split_ rfl
      cases same
      cases stops
      rw [critical_stop]
      exact ⟨rfl, by simp⟩
    · rw [List.concat_eq_append, ← List.cons_append, ← List.append_assoc] at split_
      obtain ⟨rfl, same⟩ := List.append_inj' split_ rfl
      cases same
      obtain ⟨stopped, kept⟩ := holds earlier stopping later rfl stops
      obtain ⟨notifies, left⟩ := critical_stopped (b := before) (by rw [stopped]) call entry
      rw [left]
      refine ⟨stopped, fun executed member => ?_⟩
      rw [List.concat_eq_append] at member
      rcases List.mem_append.mp member with old | new
      · exact kept executed old
      · obtain rfl := List.mem_singleton.mp new
        exact ⟨rfl, rfl, rfl⟩
  · intro earlier stopping later none_
    cases earlier <;> cases none_

theorem stopped_for_good_pushed :
    ∃ final log, Monitor.exec program (start (constructExact 3 : CircularBuffer Nat))
        [.enter 0 .pop, .enter 1 .stop, .enter 1 (.push (.copies 6)), .wake 0, .resume 0, .enter 2 .isEmpty] =
        some (final, log) ∧ StoppedFor final.shared log :=
  ⟨_, _, rfl, stopped_for_good (constructExact 3) [.enter 0 .pop, .enter 1 .stop, .enter 1 (.push (.copies 6)),
    .wake 0, .resume 0, .enter 2 .isEmpty] _ _ rfl⟩

end Runs

section Waiters

def Released (state : State (CircularBuffer T) (Call T)) : Prop :=
  state.shared.active = false ∧ ∀ thread call, state.phase thread ≠ .waiting call false

variable {state next : State (CircularBuffer T) (Call T)} {action : Action (Call T)}

theorem stop_releases {stopper : Nat} (taken : proceed program state (.enter stopper .stop) = some next) :
    Released next := by
  rcases proceed_cases taken with ⟨thread, call, entry, began, rfl⟩ | ⟨thread, call, timedOut, roused, -⟩
  · cases began with
    | enter idle =>
      refine ⟨by rw [commit_shared, critical_stop], fun other asleep found => ?_⟩
      rw [commit_unnotified_iff, critical_stop] at found
      split at found
      next => cases found.1
      next => cases found.1
  · cases roused

theorem Released.proceeds (released : Released state) (taken : proceed program state action = some next) :
    Released next := by
  obtain ⟨stopped, told⟩ := released
  rcases proceed_cases taken with ⟨thread, call, entry, began, rfl⟩ | ⟨thread, call, timedOut, roused, rfl⟩
  · obtain ⟨notifies, left⟩ := critical_stopped stopped call entry
    refine ⟨by rw [commit_shared, left]; exact stopped, fun other asleep found => ?_⟩
    rw [commit_unnotified_iff, left] at found
    split at found
    next => cases found.1
    next => exact told other asleep found.2
  · refine ⟨stopped, fun other asleep found => ?_⟩
    by_cases same : other = thread
    · subst same
      rw [rouse_phase_self] at found
      cases found
    · rw [rouse_phase_other state same] at found
      exact told other asleep found

abbrev Running (T : Type) [Element T] :=
  Schedule (Monitor.proceed (program : Program (CircularBuffer T) (Call T) (Answer T)))

theorem released_since {schedule : Running T} {time stopper : Nat} (stops : schedule.action time = .enter stopper .stop)
    {now : Nat} (later : time < now) : Released (schedule.state now) := by
  have first := schedule.moves time
  rw [stops] at first
  rcases Schedule.holds_until (P := fun now => Released (schedule.state now)) (Q := fun _ => False) later
    (fun now _ released => .inl (released.proceeds (schedule.moves now))) (stop_releases first) with released | ⟨_, _, none_⟩
  · exact released
  · exact none_.elim

theorem stop_answers_everyone (schedule : Running T) (time stopper : Nat)
    (stops : schedule.action time = .enter stopper .stop) (thread : Nat) (fair : FairTo schedule thread) (now : Nat)
    (later : time < now) (call : Call T) (inside : Inside (schedule.state now) thread call) :
    ∃ answered, now ≤ answered ∧ Answered schedule answered thread call (.ok (stoppedReply call)) := by
  let Busy (now : Nat) : Prop := time < now ∧ Inside (schedule.state now) thread call
  have heard : ∀ now, Busy now → Heard (schedule.state now) thread := by
    rintro now ⟨since, inside⟩
    exact inside.heard ((released_since stops since).2 thread)
  have kept : ∀ reached, now ≤ reached → Busy reached → schedule.action reached ≠ .resume thread →
      Busy (reached + 1) ∨ False := by
    rintro reached - ⟨since, inside⟩ other
    rcases inside.proceeds (schedule.moves reached) with there | ⟨resumes, -⟩
    · exact .inl ⟨Nat.lt_succ_of_lt since, there⟩
    · exact absurd resumes other
  obtain ⟨answered, after, none_ | ⟨⟨since, inside⟩, resumes⟩⟩ := fair.resumed heard kept ⟨later, inside⟩
  · exact none_.elim
  · have moved := schedule.moves answered
    rw [resumes] at moved
    obtain ⟨timedOut, began⟩ := inside.resumes moved
    obtain ⟨notifies, left⟩ := critical_stopped (released_since stops since).1 call (.resume timedOut)
    rw [← resumes] at began
    exact ⟨answered, after, .resume timedOut, began, by rw [left]⟩

def poppedThenStopped : Running Nat where
  state
    | 0 => alone (constructExact 3) 0 .idle
    | 1 => alone (constructExact 3) 0 (.waiting .pop false)
    | 2 => alone { constructExact 3 with active := false } 0 (.waiting .pop true)
    | 3 => alone { constructExact 3 with active := false } 0 (.awake .pop false)
    | _ => alone { constructExact 3 with active := false } 0 .idle
  action
    | 0 => .enter 0 .pop
    | 2 => .wake 0
    | 3 => .resume 0
    | _ => .enter 1 .stop
  moves
    | 0 => proceed_alone_enter _
    | 1 => proceed_alone_other (by decide) _ rfl
    | 2 => proceed_alone_wake _ _
    | 3 => proceed_alone_resume _ _
    | _ + 4 => proceed_alone_other (by decide) _ rfl

theorem poppedThenStopped_fair : FairTo poppedThenStopped 0 := by
  have idle : ∀ time, (poppedThenStopped.state (time + 4)).phase 0 = .idle := fun _ => alone_phase _ _ _
  constructor <;> intro time <;> refine ⟨time + 4, by omega, fun enabled => ?_⟩
  · obtain ⟨call, asleep⟩ := enabled
    rw [idle] at asleep
    cases asleep
  · obtain ⟨call, timedOut, awake⟩ := enabled
    rw [idle] at awake
    cases awake

theorem stop_answers_everyone_pop :
    ∃ answered, 2 ≤ answered ∧ Answered poppedThenStopped answered 0 .pop (.ok (.element none)) :=
  stop_answers_everyone poppedThenStopped 1 1 rfl 0 poppedThenStopped_fair 2 (by decide) .pop
    (.inl ⟨true, alone_phase _ _ _⟩)

end Waiters

end Pirks.CircularBuffer
