import Pirks.Common.CircularBufferStopped
import Pirks.Common.CircularBufferSafety
import Pirks.Common.CircularBufferWakeups

set_option autoImplicit false

namespace Pirks.CircularBuffer

open Execution Monitor

variable {T : Type} {size capacity : Nat} {b : CircularBuffer T} {queue : List T}

theorem rtake_snoc_ne_nil {items : List T} {item : T} {count : Nat} (positive : 0 < count) :
    (items ++ [item]).rtake count ≠ [] := by
  intro none_
  have counted : ((items ++ [item]).rtake count).length = min count (items.length + 1) := by
    simp only [List.rtake, List.length_drop, List.length_append, List.length_singleton]
    omega
  rw [none_] at counted
  simp only [List.length_nil] at counted
  omega

-- Stores never empty a buffer, and the first one that completes ends its emptiness.
theorem storeAll_leaves_some (wide : capacity ≠ 1) (holds : Holds size capacity b queue) (elements : List (Source T)) :
    ∃ result b' queue', perform (storeAll capacity elements) ⟨b, false⟩ = (result, ⟨b', false⟩) ∧
      Holds size capacity b' queue' ∧ b'.active = b.active ∧
      (queue ≠ [] ∨ result = .ok () ∧ elements ≠ [] → queue' ≠ []) := by
  induction elements generalizing b queue with
  | nil => exact ⟨.ok (), b, queue, rfl, holds, rfl, by simp⟩
  | cons element elements ih =>
    have here : Holds size capacity (Locked.mk b false).buffer queue := holds
    rcases perform_store_cases here element with
      ⟨value, rfl, stored, ran⟩ | ⟨fault, b', ran, held, active, -⟩
    · have room := holds.size_le
      have inside : b.endIndex < size := stored
      have filled : (queue ++ [value]).rtake (capacity - 1) ≠ [] := rtake_snoc_ne_nil (by omega)
      obtain ⟨result, b', queue', followed, held, active, some_⟩ := ih (holds.afterStore inside value)
      exact ⟨result, b', queue', by simpa [storeAll, perform_bind, ran, Locked.put] using followed, held, active,
        fun _ => some_ (.inl filled)⟩
    · exact ⟨.error fault, b', queue, by simp [storeAll, perform_bind, ran, Locked.put], held, active, by simp⟩

variable [Element T]

theorem critical_unquiet (wide : capacity ≠ 1) (holds : Holds size capacity b queue) (unquiet : ¬Quiet b)
    (call : Call T) (entry : Entry) :
    (∃ reply, (program.critical call entry b).outcome = .returned reply) ∧
      (¬Waits call → ¬Quiet (program.critical call entry b).shared) := by
  have effect := critical_effect holds call entry
  generalize program.critical call entry b = result at effect ⊢
  cases effect with
  | refused | observed | divided => exact ⟨⟨_, rfl⟩, fun _ => unquiet⟩
  | ended => exact ⟨⟨_, rfl⟩, fun _ quiet => absurd quiet.1 Bool.false_ne_true⟩
  | gaveUp blocking blocks => exact ⟨⟨_, rfl⟩, fun _ => unquiet⟩
  | slept blocking blocks inTime active empty => exact absurd ⟨active, holds.empty_iff.mpr empty⟩ unquiet
  | peeked delay looks => exact ⟨⟨_, rfl⟩, fun waits => absurd ⟨peekFor delay, by rw [looks, blocking?]⟩ waits⟩
  | took pops =>
    refine ⟨⟨_, rfl⟩, fun waits => absurd ?_ waits⟩
    rcases pops with rfl | ⟨delay, rfl⟩ <;> exact ⟨_, rfl⟩
  | tookBatch outBuffer maxElements pops =>
    refine ⟨⟨_, rfl⟩, fun waits => absurd ?_ waits⟩
    rcases pops with rfl | ⟨delay, rfl⟩ <;> exact ⟨_, rfl⟩
  | pushed elements b' pushes active ran | threw elements _ b' pushes active ran =>
    obtain ⟨_, _, queue', same, held, kept, some_⟩ := storeAll_leaves_some wide holds elements
    rw [ran] at same
    cases same
    refine ⟨⟨_, rfl⟩, fun _ quiet => ?_⟩
    have available : queue ≠ [] := fun empty => unquiet ⟨active, holds.empty_iff.mpr empty⟩
    exact some_ (.inl available) (held.empty_iff.mp quiet.2)

def PushesSome (call : Call T) (reply : Answer T) : Prop :=
  ∃ elements, call.elements? = some elements ∧ elements ≠ [] ∧ reply = .ok .done

theorem push_ends_quiet (wide : capacity ≠ 1) (holds : Holds size capacity b queue) {call : Call T} {entry : Entry}
    {reply : Answer T} (pushes : PushesSome call reply)
    (returned : (program.critical call entry b).outcome = .returned reply) :
    ¬Quiet (program.critical call entry b).shared ∧
      (b.active = true → (program.critical call entry b).notifies = true) := by
  obtain ⟨elements, given, some_, rfl⟩ := pushes
  have effect := critical_effect holds call entry
  generalize program.critical call entry b = result at effect returned ⊢
  cases effect with
  | refused _ _ stopped => exact ⟨fun quiet => by simp [Quiet, stopped] at quiet, by simp [stopped]⟩
  | pushed elements' b' pushes active ran =>
    rw [given] at pushes
    cases pushes
    obtain ⟨_, _, queue', same, held, kept, filled⟩ := storeAll_leaves_some wide holds elements
    rw [ran] at same
    cases same
    exact ⟨fun quiet => filled (.inr ⟨rfl, some_⟩) (held.empty_iff.mp quiet.2), fun _ => rfl⟩
  | threw => cases returned
  | observed _ looks => rcases looks with rfl | rfl | rfl <;> cases given
  | divided asks => subst asks; cases given
  | ended stops => subst stops; cases given
  | gaveUp blocking blocks | slept blocking blocks =>
    rw [blocking_pushes_nothing blocks] at given
    cases given
  | peeked delay looks => subst looks; cases given
  | took pops => rcases pops with rfl | ⟨delay, rfl⟩ <;> cases given
  | tookBatch _ _ pops => rcases pops with rfl | ⟨delay, rfl⟩ <;> cases given

theorem stop_notifies (holds : Holds size capacity b queue) (active : b.active = true) {call : Call T} {entry : Entry}
    (stopped : (program.critical call entry b).shared.active = false) :
    (program.critical call entry b).notifies = true ∧ (program.critical call entry b).outcome ≠ .waits := by
  have effect := critical_effect holds call entry
  generalize program.critical call entry b = result at effect stopped ⊢
  cases effect with
  | ended => exact ⟨rfl, by simp⟩
  | pushed elements b' _ _ ran | threw elements _ b' _ _ ran =>
    obtain ⟨_, _, _, same, -, kept⟩ := storeAll_cases holds elements
    rw [ran] at same
    cases same
    simp [kept, active] at stopped
  | tookBatch _ _ _ _ _ _ _ available ran =>
    simp [(holds.afterBatch available ran).2.1, active] at stopped
  | refused | observed | divided | gaveUp | slept | peeked | took => simp [afterTake, active] at stopped

section Schedules

structure Sound (size capacity : Nat) (state : State (CircularBuffer T) (Call T)) : Prop where
  holds : ∃ queue, Holds size capacity state.shared queue
  orderly : Orderly state
  told : state.shared.active = false → ∀ thread call, state.phase thread ≠ .waiting call false

variable {state next : State (CircularBuffer T) (Call T)} {action : Action (Call T)}

theorem start_sound (c : Nat) (reserved : Reserved ((c + 1) % sizeModulus)) :
    Sound ((c + 1) % sizeModulus) reserved.capacity (start (construct c reserved : CircularBuffer T)) where
  holds := ⟨[], construct_holds c reserved⟩
  orderly := start_legal _
  told := fun _ _ _ found => by simp [start] at found

theorem Sound.proceeds (sound : Sound size capacity state) (taken : proceed program state action = some next) :
    Sound size capacity next := by
  have told : next.shared.active = false → ∀ thread call, next.phase thread ≠ .waiting call false := by
    intro stopped
    cases active : state.shared.active with
    | false =>
      have released : Released state := ⟨active, sound.told active⟩
      exact (released.proceeds taken).2
    | true =>
      obtain ⟨queue, holds⟩ := sound.holds
      rcases proceed_cases taken with ⟨thread, call, entry, began, rfl⟩ | ⟨thread, call, timedOut, roused, rfl⟩
      · obtain ⟨notifies, returns⟩ := stop_notifies holds active stopped
        intro other asleep found
        rw [commit_unnotified_iff] at found
        split at found
        next => exact returns found.1
        next => simp [notifies] at found
      · rw [rouse_shared, active] at stopped
        cases stopped
  rcases proceed_cases taken with ⟨thread, call, entry, began, rfl⟩ | ⟨thread, call, timedOut, roused, rfl⟩
  · obtain ⟨queue, holds⟩ := sound.holds
    exact ⟨critical_kept call entry sound.holds,
      commit_legal sound.orderly (waits_blocking holds call entry) thread, told⟩
  · exact ⟨sound.holds, rouse_legal sound.orderly (roused.legal sound.orderly), told⟩

theorem Sound.waits {thread : Nat} {call : Call T} (sound : Sound size capacity state)
    (inside : Inside state thread call) : Waits call := by
  have legal := sound.orderly thread
  rcases inside with ⟨_, found⟩ | ⟨_, found⟩ <;> rw [found] at legal
  · exact legal
  · exact legal.1

def PushesRecur (schedule : Running T) : Prop :=
  ∀ time, ∃ later, time ≤ later ∧
    ∃ pusher call reply, PushesSome call reply ∧ Answered schedule later pusher call reply

def Overtaken (schedule : Running T) (thread now : Nat) : Prop :=
  ∃ other made reply, other ≠ thread ∧ Waits made ∧ Answered schedule now other made reply

structure Awaits (thread : Nat) (call : Call T) (state : State (CircularBuffer T) (Call T)) : Prop where
  unquiet : ¬Quiet state.shared
  inside : Inside state thread call
  heard : Heard state thread

theorem push_wakes (wide : capacity ≠ 1) (sound : Sound size capacity state) {thread pusher : Nat} {call made : Call T}
    {entry : Entry} {reply : Answer T} (inside : Inside state thread call)
    (began : Began state action pusher made entry) (pushes : PushesSome made reply)
    (returned : (program.critical made entry state.shared).outcome = .returned reply)
    (taken : proceed program state action = some next) : Awaits thread call next := by
  obtain ⟨queue, holds⟩ := sound.holds
  have distinct : made ≠ call := by
    rintro rfl
    obtain ⟨blocking, blocks⟩ := sound.waits inside
    obtain ⟨elements, given, -⟩ := pushes
    rw [blocking_pushes_nothing blocks] at given
    cases given
  have apart := inside.began_other began (.inl distinct)
  obtain ⟨unquiet, notifies⟩ := push_ends_quiet wide holds pushes returned
  rw [began.proceeds taken]
  refine ⟨unquiet, inside.commit_other apart made entry, ?_⟩
  cases active : state.shared.active with
  | true => exact inside.notified apart (notifies active)
  | false => exact (inside.heard (sound.told active thread)).commit_other apart made entry

theorem Awaits.proceeds (wide : capacity ≠ 1) (sound : Sound size capacity state) {thread : Nat} {call : Call T}
    (awaits : Awaits thread call state) (taken : proceed program state action = some next)
    (other : action ≠ .resume thread) :
    Awaits thread call next ∨ ∃ mover made entry reply, mover ≠ thread ∧ Waits made ∧
      Began state action mover made entry ∧ (program.critical made entry state.shared).outcome = .returned reply := by
  obtain ⟨queue, holds⟩ := sound.holds
  have heard := awaits.heard.proceeds taken other
  have inside : Inside next thread call := by
    rcases awaits.inside.proceeds taken with still | ⟨resumes, -⟩
    · exact still
    · exact absurd resumes other
  rcases proceed_cases taken with ⟨mover, made, entry, began, rfl⟩ | ⟨mover, made, timedOut, roused, rfl⟩
  · obtain ⟨⟨reply, returned⟩, unquiet⟩ := critical_unquiet wide holds awaits.unquiet made entry
    by_cases waits : Waits made
    · have apart := awaits.inside.began_other began (.inr other)
      exact .inr ⟨mover, made, entry, reply, apart.symm, waits, began, returned⟩
    · exact .inl ⟨unquiet waits, inside, heard⟩
  · exact .inl ⟨awaits.unquiet, inside, heard⟩

theorem Awaits.answered_or_overtaken (wide : capacity ≠ 1) {schedule : Running T}
    (sound : ∀ now, Sound size capacity (schedule.state now)) {thread : Nat} (fair : FairTo schedule thread)
    {time : Nat} {call : Call T} (awaits : Awaits thread call (schedule.state time)) :
    ∃ later, time ≤ later ∧ ((∃ reply, Answered schedule later thread call reply) ∨ Overtaken schedule thread later) := by
  have kept : ∀ now, time ≤ now → Awaits thread call (schedule.state now) → schedule.action now ≠ .resume thread →
      Awaits thread call (schedule.state (now + 1)) ∨ Overtaken schedule thread now := by
    intro now _ awaits other
    rcases awaits.proceeds wide (sound now) (schedule.moves now) other with
      still | ⟨mover, made, entry, reply, apart, waits, began, returned⟩
    · exact .inl still
    · exact .inr ⟨mover, made, reply, apart, waits, entry, began, returned⟩
  obtain ⟨later, since, overtaken | ⟨awaits, resumes⟩⟩ := fair.resumed (fun _ awaits => awaits.heard) kept awaits
  · exact ⟨later, since, .inr overtaken⟩
  · have moved := schedule.moves later
    rw [resumes] at moved
    obtain ⟨timedOut, began⟩ := awaits.inside.resumes moved
    obtain ⟨queue, holds⟩ := (sound later).holds
    obtain ⟨reply, returned⟩ := (critical_unquiet wide holds awaits.unquiet call (.resume timedOut)).1
    rw [← resumes] at began
    exact ⟨later, since, .inl ⟨reply, .resume timedOut, began, returned⟩⟩

theorem call_answered_or_overtaken (wide : capacity ≠ 1) {schedule : Running T}
    (sound : ∀ now, Sound size capacity (schedule.state now)) (pushes : PushesRecur schedule) {thread : Nat}
    (fair : FairTo schedule thread) {time : Nat} {call : Call T} (inside : Inside (schedule.state time) thread call) :
    ∃ later, time ≤ later ∧ ((∃ reply, Answered schedule later thread call reply) ∨ Overtaken schedule thread later) := by
  obtain ⟨pushed, after, pusher, made, reply, some_, entry, began, returned⟩ := pushes time
  rcases inside_until after inside with still | ⟨reached, reply, since, answered⟩
  · have woken : Awaits thread call (schedule.state (pushed + 1)) :=
      push_wakes wide (sound pushed) still began some_ returned (schedule.moves pushed)
    obtain ⟨later, since, ends⟩ := woken.answered_or_overtaken wide sound fair
    exact ⟨later, by omega, ends⟩
  · exact ⟨reached, since, .inl ⟨reply, answered⟩⟩

theorem schedule_sound {c : Nat} {reserved : Reserved ((c + 1) % sizeModulus)} {schedule : Running T}
    (initial : schedule.state 0 = start (construct c reserved)) (now : Nat) :
    Sound ((c + 1) % sizeModulus) reserved.capacity (schedule.state now) := by
  apply Schedule.invariant
  · rw [initial]
    exact start_sound c reserved
  · intro state action next sound taken
    exact sound.proceeds taken

section Samples

def twoCells (startIndex endIndex : Nat) : CircularBuffer Nat :=
  ⟨true, ⟨[0, 0], 2, by decide, by decide⟩, startIndex, endIndex⟩

def poppedState : Nat → State (CircularBuffer Nat) (Call Nat)
  | 0 => alone (twoCells 0 0) 0 .idle
  | 1 => alone (twoCells 0 0) 0 (.waiting .pop false)
  | 2 => alone (twoCells 0 1) 0 (.waiting .pop true)
  | 3 => alone (twoCells 0 1) 0 (.awake .pop false)
  | 4 => alone (twoCells 1 1) 0 .idle
  | 5 => alone (twoCells 1 1) 0 (.waiting .pop false)
  | 6 => alone (twoCells 1 0) 0 (.waiting .pop true)
  | _ => alone (twoCells 1 0) 0 (.awake .pop false)

def poppedAction (place : Nat) : Action (Call Nat) :=
  match place % 4 with
  | 0 => .enter 0 .pop
  | 1 => .enter 1 (.push (.copies 0))
  | 2 => .wake 0
  | _ => .resume 0

theorem popped_turns : ∀ place, place < 8 →
    proceed program (poppedState place) (poppedAction place) = some (poppedState ((place + 1) % 8)) := by
  intro place within
  match place, within with
  | 0, _ | 4, _ => exact proceed_alone_enter _
  | 1, _ | 5, _ => exact proceed_alone_other (by decide) _ rfl
  | 2, _ | 6, _ => exact proceed_alone_wake _ _
  | 3, _ | 7, _ => exact proceed_alone_resume _ _

def poppedForEver : Running Nat := Schedule.cycle (by decide) popped_turns

theorem poppedForEver_fair : FairTo poppedForEver 0 where
  leaves := by
    have wakes : poppedForEver.Recurs fun action => action = .wake 0 ∨ action = .expire 0 :=
      Schedule.cycle_recurs (by decide) popped_turns (show 2 < 8 by decide) (.inl rfl)
    exact wakes.fair _
  resumes := by
    have resumes : poppedForEver.Recurs fun action => action = .resume 0 :=
      Schedule.cycle_recurs (by decide) popped_turns (show 3 < 8 by decide) rfl
    exact resumes.fair _

theorem poppedForEver_pushes : PushesRecur poppedForEver := by
  intro time
  have place : (time * 8 + 1) % 8 = 1 := by omega
  refine ⟨time * 8 + 1, by omega, 1, .push (.copies 0), .ok .done, ⟨[.copies 0], rfl, by simp, rfl⟩, .enter, ?_, ?_⟩
  · change Began (poppedState ((time * 8 + 1) % 8)) (poppedAction ((time * 8 + 1) % 8)) 1 _ _
    rw [place]
    exact .enter rfl
  · change (program.critical _ _ (poppedState ((time * 8 + 1) % 8)).shared).outcome = _
    rw [place]
    rfl

end Samples

theorem consumer_answered_or_overtaken (c : Nat) (reserved : Reserved ((c + 1) % sizeModulus))
    (wide : reserved.capacity ≠ 1) (schedule : Running T) (initial : schedule.state 0 = start (construct c reserved))
    (pushes : PushesRecur schedule) (thread : Nat) (fair : FairTo schedule thread) (time : Nat) (call : Call T)
    (inside : Inside (schedule.state time) thread call) :
    ∃ later, time ≤ later ∧ ((∃ reply, Answered schedule later thread call reply) ∨ Overtaken schedule thread later) :=
  call_answered_or_overtaken wide (schedule_sound initial) pushes fair inside

theorem consumer_answered_or_overtaken_popping :
    ∃ later, 1 ≤ later ∧ ((∃ reply, Answered poppedForEver later 0 .pop reply) ∨ Overtaken poppedForEver 0 later) :=
  consumer_answered_or_overtaken 1 (.exact _ (by decide)) (by decide) poppedForEver (alone_idle _ _)
    poppedForEver_pushes 0 poppedForEver_fair 1 .pop (.inl ⟨false, rfl⟩)

theorem passing_idle {schedule : Running T} (sound : ∀ now, Sound size capacity (schedule.state now)) {thread : Nat}
    (initial : ∀ other, (schedule.state 0).phase other = .idle)
    (passing : ∀ now other call, schedule.action now = .enter other call → other ≠ thread → ¬Waits call)
    (now : Nat) {other : Nat} (apart : other ≠ thread) : (schedule.state now).phase other = .idle := by
  induction now with
  | zero => exact initial other
  | succ now idle =>
    rcases proceed_cases (schedule.moves now) with ⟨mover, made, entry, began, same⟩ | ⟨mover, made, late, roused, same⟩
    · rw [same]
      by_cases mine : other = mover
      · subst mine
        cases act : schedule.action now <;> rw [act] at began <;> cases began
        next =>
          obtain ⟨queue, holds⟩ := (sound now).holds
          have leaves := passing now other made act apart
          rw [commit_phase_self, Result.phase]
          split
          next => rfl
          next sleeps => exact absurd (waits_blocking holds made .enter sleeps) leaves
        next awake =>
          rw [idle] at awake
          cases awake
      · rw [commit_phase_other program _ mine, Monitor.notifyAll]
        split <;> simp [idle, Phase.notify]
    · rw [same]
      have mine : other ≠ mover := by
        rintro rfl
        cases act : schedule.action now <;> rw [act] at roused <;> cases roused <;> simp_all
      rw [rouse_phase_other _ mine, idle]

theorem passing_never_answered {schedule : Running T} (sound : ∀ now, Sound size capacity (schedule.state now))
    {thread : Nat} (initial : ∀ other, (schedule.state 0).phase other = .idle)
    (passing : ∀ now other call, schedule.action now = .enter other call → other ≠ thread → ¬Waits call)
    {now other : Nat} {made : Call T} {reply : Answer T} (apart : other ≠ thread) (waits : Waits made) :
    ¬Answered schedule now other made reply := by
  rintro ⟨entry, began, -⟩
  have idle := passing_idle sound initial passing now apart
  cases act : schedule.action now <;> rw [act] at began <;> cases began
  next => exact passing now other made act apart waits
  next awake =>
    rw [idle] at awake
    cases awake

theorem sole_consumer_answered (c : Nat) (reserved : Reserved ((c + 1) % sizeModulus))
    (wide : reserved.capacity ≠ 1) (schedule : Running T) (initial : schedule.state 0 = start (construct c reserved))
    (pushes : PushesRecur schedule) (thread : Nat) (fair : FairTo schedule thread)
    (passing : ∀ now other call, schedule.action now = .enter other call → other ≠ thread → ¬Waits call)
    (time : Nat) (call : Call T) (inside : Inside (schedule.state time) thread call) :
    ∃ later reply, time ≤ later ∧ Answered schedule later thread call reply := by
  have sound := schedule_sound initial
  obtain ⟨later, since, ⟨reply, answered⟩ | ⟨other, made, reply, apart, waits, overtaken⟩⟩ :=
    call_answered_or_overtaken wide sound pushes fair inside
  · exact ⟨later, reply, since, answered⟩
  · exact absurd overtaken (passing_never_answered sound (by simp [initial, start]) passing apart waits)

theorem sole_consumer_answered_popping :
    ∃ later reply, 1 ≤ later ∧ Answered poppedForEver later 0 .pop reply := by
  refine sole_consumer_answered 1 (.exact _ (by decide)) (by decide) poppedForEver (alone_idle _ _)
    poppedForEver_pushes 0 poppedForEver_fair ?_ 1 .pop (.inl ⟨false, rfl⟩)
  intro now other call enters apart
  change poppedAction (now % 8) = _ at enters
  unfold poppedAction at enters
  split at enters <;> cases enters
  · exact absurd rfl apart
  · rintro ⟨blocking, blocks⟩
    cases blocks

end Schedules

end Pirks.CircularBuffer
