import Pirks.Common.CircularBufferProgress

set_option autoImplicit false

namespace Pirks.CircularBuffer

open Monitor

variable {T : Type} [Element T] {size capacity : Nat}

def Undisturbed (schedule : Running T) (thread : Nat) : Prop :=
  ∃ since, ∀ now, since ≤ now → schedule.action now = .wake thread → ¬Quiet (schedule.state now).shared

theorem late_answered {schedule : Running T} (sound : ∀ now, Sound size capacity (schedule.state now)) {thread : Nat}
    {call : Call T} {now : Nat} (inside : Inside (schedule.state now) thread call)
    (began : Began (schedule.state now) (schedule.action now) thread call (.resume true)) :
    ∃ reply, Answered schedule now thread call reply := by
  obtain ⟨blocking, blocks⟩ := (sound now).waits inside
  exact ⟨_, .resume true, began, by rw [critical_gaveUp blocks (.inl rfl)]⟩

theorem timed_call_ends (wide : capacity ≠ 1) {schedule : Running T}
    (sound : ∀ now, Sound size capacity (schedule.state now)) {thread : Nat} (fair : FairTo schedule thread)
    (punctual : Punctual schedule thread) (undisturbed : Undisturbed schedule thread) {time : Nat} {call : Call T}
    (timed : program.timed call = true) (inside : Inside (schedule.state time) thread call) :
    ∃ later, time ≤ later ∧ ((∃ reply, Answered schedule later thread call reply) ∨ Overtaken schedule thread later) := by
  obtain ⟨since, undisturbed⟩ := undisturbed
  rcases inside_until (Nat.le_max_left time since) inside with still | ⟨reached, reply, after, answered⟩
  swap
  · exact ⟨reached, after, .inl ⟨reply, answered⟩⟩
  obtain ⟨rested, after, ⟨reply, answered⟩ | ⟨notified, asleep⟩⟩ := fair.waits still
  · exact ⟨rested, by omega, .inl ⟨reply, answered⟩⟩
  obtain ⟨left, told, later, asleep, wakes | expires⟩ := punctual.ends timed asleep
  · have moved := schedule.moves left
    rw [wakes] at moved
    have unquiet := undisturbed left (by omega) wakes
    have inside : Inside (schedule.state (left + 1)) thread call := by
      rcases Inside.proceeds (.inl ⟨told, asleep⟩) moved with there | ⟨resumes, -⟩
      · exact there
      · cases resumes
    have awaits : Awaits thread call (schedule.state (left + 1)) :=
      ⟨by rwa [proceed_wake moved], inside, .inr (proceed_leaves moved (.inl rfl))⟩
    obtain ⟨ended, past, ends⟩ := awaits.answered_or_overtaken wide sound fair
    exact ⟨ended, by omega, ends⟩
  · have moved := schedule.moves left
    rw [expires] at moved
    obtain ⟨ended, past, began⟩ := fair.times_out (proceed_expire moved asleep)
    have inside : Inside (schedule.state ended) thread call := by
      cases began_ : schedule.action ended <;> rw [began_] at began <;> cases began
      next awake => exact .inr ⟨true, awake⟩
    exact ⟨ended, by omega, .inl (late_answered sound inside began)⟩

section Samples

def timedState : Nat → State (CircularBuffer Nat) (Call Nat)
  | 0 => alone (twoCells 0 0) 0 .idle
  | 1 => alone (twoCells 0 0) 0 (.waiting (.popFor 5) false)
  | _ => alone (twoCells 0 0) 0 (.awake (.popFor 5) true)

def timedAction : Nat → Action (Call Nat)
  | 0 => .enter 0 (.popFor 5)
  | 1 => .expire 0
  | _ => .resume 0

theorem timed_turns : ∀ place, place < 3 →
    proceed program (timedState place) (timedAction place) = some (timedState ((place + 1) % 3)) := by
  intro place within
  match place, within with
  | 0, _ => exact proceed_alone_enter _
  | 1, _ => exact proceed_alone_expire rfl _
  | 2, _ => exact proceed_alone_resume _ _

def timedForEver : Running Nat := Schedule.cycle (by decide) timed_turns

theorem timedForEver_expires : timedForEver.Recurs fun action => action = .wake 0 ∨ action = .expire 0 :=
  Schedule.cycle_recurs (by decide) timed_turns (show 1 < 3 by decide) (.inr rfl)

theorem timedForEver_fair : FairTo timedForEver 0 where
  leaves := timedForEver_expires.fair _
  resumes := by
    have resumes : timedForEver.Recurs fun action => action = .resume 0 :=
      Schedule.cycle_recurs (by decide) timed_turns (show 2 < 3 by decide) rfl
    exact resumes.fair _

theorem timedForEver_acts (now : Nat) :
    timedForEver.action now = .enter 0 (.popFor 5) ∨ timedForEver.action now = .expire 0 ∨
      timedForEver.action now = .resume 0 := by
  change timedAction (now % 3) = _ ∨ timedAction (now % 3) = _ ∨ timedAction (now % 3) = _
  unfold timedAction
  split <;> simp

end Samples

theorem timed_consumer_answered (c : Nat) (reserved : Reserved ((c + 1) % sizeModulus))
    (wide : reserved.capacity ≠ 1) (schedule : Running T) (initial : schedule.state 0 = start (construct c reserved))
    (thread : Nat) (fair : FairTo schedule thread) (punctual : Punctual schedule thread)
    (undisturbed : Undisturbed schedule thread) (time : Nat) (call : Call T) (timed : program.timed call = true)
    (inside : Inside (schedule.state time) thread call) :
    (∃ later, time ≤ later ∧ ((∃ reply, Answered schedule later thread call reply) ∨ Overtaken schedule thread later)) ∧
    ((∀ now other call, schedule.action now = .enter other call → other ≠ thread → ¬Waits call) →
      ∃ later reply, time ≤ later ∧ Answered schedule later thread call reply) := by
  have sound := schedule_sound initial
  have ends := timed_call_ends wide sound fair punctual undisturbed timed inside
  refine ⟨ends, fun passing => ?_⟩
  obtain ⟨later, since, ⟨reply, answered⟩ | ⟨other, made, reply, apart, waits, overtaken⟩⟩ := ends
  · exact ⟨later, reply, since, answered⟩
  · exact absurd overtaken (passing_never_answered sound (by simp [initial, start]) passing apart waits)

theorem timed_consumer_answered_alone :
    ∃ later reply, 1 ≤ later ∧ Answered timedForEver later 0 (.popFor 5) reply := by
  refine (timed_consumer_answered 1 (.exact _ (by decide)) (by decide) timedForEver (alone_idle _ _) 0
    timedForEver_fair (timedForEver_expires.fair _) ?_ 1 (.popFor 5) rfl (.inl ⟨false, rfl⟩)).2 ?_
  · refine ⟨0, fun now _ wakes => ?_⟩
    rcases timedForEver_acts now with acts | acts | acts <;> rw [acts] at wakes <;> cases wakes
  · intro now other call enters apart
    rcases timedForEver_acts now with acts | acts | acts <;> rw [acts] at enters <;> cases enters
    exact absurd rfl apart

end Pirks.CircularBuffer
