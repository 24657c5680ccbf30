import Pirks.Audio.CaptureDevice
import Pirks.Audio.MacAudioInput
import Pirks.Foundation.Filling
import Pirks.Foundation.Schedule

set_option autoImplicit false

namespace Pirks.Audio

/-- A TPCircularBuffer of a fixed length: a packet is stored entirely, or not at all. -/
structure TPCircularBuffer.FixedLength (buffer : TPCircularBuffer) (capacity : Nat) : Prop where
  within : ∀ state, (buffer.tail state).length ≤ capacity
  stored : ∀ state bytes, (buffer.tail state).length + bytes.length ≤ capacity →
    buffer.tail (buffer.produceBytes state bytes) = buffer.tail state ++ bytes
  dropped : ∀ state bytes, capacity < (buffer.tail state).length + bytes.length →
    buffer.produceBytes state bytes = state

namespace MacAudioInput

open Filling

variable {buffer : TPCircularBuffer}

namespace Phase

def Awaits (sampleSize : UInt32) : Phase → Prop
  | .looking size => size = sampleSize
  | .testing size _ => size = sampleSize
  | .short size => size = sampleSize
  | .waiting size _ => size = sampleSize
  | _ => False

def runnable : Phase → Bool
  | .looking _ => true
  | .testing _ _ => true
  | .short _ => true
  | .waiting _ signalled => signalled
  | _ => false

def next (length : UInt32) : Phase → Phase
  | .looking sampleSize => .testing sampleSize length
  | .testing sampleSize seen => if seen.toNat < bytesOf sampleSize then .short sampleSize else .copying sampleSize
  | .short sampleSize => .waiting sampleSize false
  | .waiting sampleSize true => .looking sampleSize
  | phase => phase

end Phase

namespace Action

def ofLoop : Action → Bool
  | .tail => true
  | .test => true
  | .wait => true
  | .wake => true
  | _ => false

def isPacket : Action → Bool
  | .produceBytes _ => true
  | _ => false

end Action

/-- Packets keep arriving in their order, each of them is signalled, and the thread in sample() gets to run. -/
structure Delivers (packets : Nat → List UInt8) (schedule : Schedule (@System.apply buffer)) : Prop where
  ordered : ∀ time bytes, schedule.action time = .produceBytes bytes →
    bytes = packets (schedule.count Action.isPacket time)
  endless : schedule.Recurs fun action => action.isPacket = true
  signalled : ∀ time, (schedule.action time).isPacket = true →
    ∃ later, time < later ∧ schedule.action later = .signal
  runs : schedule.Fair (fun system => system.phase.runnable = true) fun action => action.ofLoop = true

variable {system after : System buffer} {action : Action} {sampleSize : UInt32} {capacity : Nat}
  {packets : Nat → List UInt8} {schedule : Schedule (@System.apply buffer)}

theorem apply_awaiting (awaits : system.phase.Awaits sampleSize) (applied : system.apply action = some after) :
    (action.ofLoop = true ∧ system.phase.runnable = true ∧
        after.phase = system.phase.next (UInt32.ofNat system.unread.length) ∧
        after.audioSampleBuffer = system.audioSampleBuffer) ∨
      (∃ bytes, action = .produceBytes bytes ∧ after.phase = system.phase ∧
        after.audioSampleBuffer = buffer.produceBytes system.audioSampleBuffer bytes) ∨
      (action = .signal ∧ after.phase = system.phase.signalled ∧
        after.audioSampleBuffer = system.audioSampleBuffer) := by
  cases apply_cases applied with
  | call standing | consume standing =>
    rw [standing] at awaits
    cases awaits
  | tail standing | wait standing | wake standing =>
    rw [standing]
    exact .inl ⟨rfl, rfl, rfl, rfl⟩
  | missing standing less =>
    rw [standing, Phase.next, if_pos less]
    exact .inl ⟨rfl, rfl, rfl, rfl⟩
  | enough standing reached =>
    rw [standing, Phase.next, if_neg (Nat.not_lt_of_le reached)]
    exact .inl ⟨rfl, rfl, rfl, rfl⟩
  | @produceBytes bytes => exact .inr (.inl ⟨bytes, rfl, rfl, rfl⟩)
  | signal => exact .inr (.inr ⟨rfl, rfl, rfl⟩)

theorem signalled_awaits {phase : Phase} : phase.signalled.Awaits sampleSize ↔ phase.Awaits sampleSize := by
  cases phase <;> rfl

theorem next_awaits {phase : Phase} (awaits : phase.Awaits sampleSize) (length : UInt32) :
    (phase.next length).Awaits sampleSize ∨ phase.next length = .copying sampleSize := by
  cases phase with
  | testing size seen =>
    cases awaits
    rw [Phase.next]
    split
    next => exact .inl rfl
    next => exact .inr rfl
  | waiting size signalled => cases signalled <;> exact .inl awaits
  | looking | short => exact .inl awaits
  | idle | copying => cases awaits

theorem awaiting_phase (awaits : system.phase.Awaits sampleSize) (applied : system.apply action = some after) :
    after.phase.Awaits sampleSize ∨ after.phase = .copying sampleSize := by
  rcases apply_awaiting awaits applied with ⟨_, _, phase, _⟩ | ⟨_, _, phase, _⟩ | ⟨_, phase, _⟩
  · rw [phase]
    exact next_awaits awaits _
  · rw [phase]
    exact .inl awaits
  · rw [phase, signalled_awaits]
    exact .inl awaits

theorem awaiting_grows (awaits : system.phase.Awaits sampleSize) (applied : system.apply action = some after) :
    system.unread.length ≤ after.unread.length := by
  rcases apply_awaiting awaits applied with ⟨_, _, _, same⟩ | ⟨bytes, _, _, produced⟩ | ⟨_, _, same⟩
  · exact Nat.le_of_eq (by rw [System.unread, System.unread, same])
  · rw [System.unread, System.unread, produced]
    exact produceBytes_grows _ _
  · exact Nat.le_of_eq (by rw [System.unread, System.unread, same])

theorem produceBytes_length (fixed : buffer.FixedLength capacity) (state : buffer.State) (bytes : List UInt8) :
    (buffer.tail (buffer.produceBytes state bytes)).length =
      if (buffer.tail state).length + bytes.length ≤ capacity then (buffer.tail state).length + bytes.length
      else (buffer.tail state).length := by
  split
  next fits => rw [fixed.stored state bytes fits, List.length_append]
  next beyond => rw [fixed.dropped state bytes (Nat.lt_of_not_le beyond)]

def buffered (capacity : Nat) (system : System buffer) (packets : Nat → List UInt8) : Nat → Nat :=
  level capacity system.unread.length fun n => (packets n).length

theorem ofLoop_not_packet (loops : action.ofLoop = true) : action.isPacket = false := by
  cases action with
  | produceBytes bytes => cases loops
  | _ => rfl

def Filled (capacity : Nat) (packets : Nat → List UInt8) (schedule : Schedule (@System.apply buffer))
    (time : Nat) : Prop :=
  (schedule.state time).unread.length =
    buffered capacity (schedule.state 0) packets (schedule.count Action.isPacket time)

theorem awaiting_filled (fixed : buffer.FixedLength capacity) (delivers : Delivers packets schedule) {time : Nat}
    (awaits : (schedule.state time).phase.Awaits sampleSize) (filled : Filled capacity packets schedule time) :
    Filled capacity packets schedule (time + 1) := by
  rw [Filled] at filled ⊢
  rcases apply_awaiting awaits (schedule.moves time) with ⟨loops, _, _, same⟩ | ⟨bytes, arrives, _, produced⟩ |
    ⟨signals, _, same⟩
  · rw [Schedule.count_other (ofLoop_not_packet loops), ← filled, System.unread, System.unread, same]
  · have counted : (schedule.action time).isPacket = true := by
      rw [arrives]
      rfl
    rw [Schedule.count_counted counted, buffered, level, ← buffered, ← filled,
      ← delivers.ordered time bytes arrives, System.unread, produced]
    exact produceBytes_length fixed _ _
  · have other : (schedule.action time).isPacket = false := by
      rw [signals]
      rfl
    rw [Schedule.count_other other, ← filled, System.unread, System.unread, same]

theorem begins_ready (begins : system.phase = .looking sampleSize) : system.Ready := by
  refine ⟨fun size length standing => ?_, fun size standing => ?_⟩
  all_goals
    rw [begins] at standing
    cases standing

-- Up to any time the call has either seen enough bytes, or goes on waiting for what has arrived.
theorem awaits_or_copies (fixed : buffer.FixedLength capacity) (delivers : Delivers packets schedule)
    (begins : (schedule.state 0).phase = .looking sampleSize) (time : Nat) :
    ((schedule.state time).phase.Awaits sampleSize ∧ Filled capacity packets schedule time) ∨
      ∃ earlier, (schedule.state earlier).phase = .copying sampleSize ∧
        Filled capacity packets schedule earlier := by
  induction time with
  | zero =>
    refine .inl ⟨?_, rfl⟩
    rw [begins]
    rfl
  | succ time ih =>
    rcases ih with ⟨awaits, filled⟩ | copied
    · have later := awaiting_filled fixed delivers awaits filled
      rcases awaiting_phase awaits (schedule.moves time) with still | copies
      · exact .inl ⟨still, later⟩
      · exact .inr ⟨time + 1, copies, later⟩
    · exact .inr copied

def Stands (sampleSize : UInt32) (phase : Phase) (system : System buffer) : Prop :=
  system.phase = phase ∧ bytesOf sampleSize ≤ system.unread.length

def Copies (sampleSize : UInt32) (system : System buffer) : Prop := system.phase = .copying sampleSize

theorem length_toNat (system : System buffer) :
    (UInt32.ofNat system.unread.length).toNat = system.unread.length :=
  UInt32.toNat_ofNat_of_lt (buffer.bounded system.audioSampleBuffer)

theorem runnable_signalled {phase : Phase} (runnable : phase.runnable = true) : phase.signalled = phase := by
  cases phase with
  | waiting sampleSize signalled =>
    cases runnable
    rfl
  | _ => rfl

theorem runnable_steps {phase : Phase} (awaits : phase.Awaits sampleSize) (runnable : phase.runnable = true)
    (stands : Stands sampleSize phase system) (applied : system.apply action = some after) :
    (Stands sampleSize phase after ∧ action.ofLoop = false) ∨
      ∃ length, bytesOf sampleSize ≤ UInt32.toNat length ∧ Stands sampleSize (phase.next length) after := by
  obtain ⟨standing, enough⟩ := stands
  rw [← standing] at awaits
  have grows := awaiting_grows awaits applied
  have enough_after := Nat.le_trans enough grows
  rcases apply_awaiting awaits applied with ⟨_, _, stepped, _⟩ | ⟨bytes, arrives, same, _⟩ | ⟨signals, same, _⟩
  · rw [standing] at stepped
    exact .inr ⟨_, by rwa [length_toNat], stepped, enough_after⟩
  · rw [arrives]
    exact .inl ⟨⟨same.trans standing, enough_after⟩, rfl⟩
  · rw [standing, runnable_signalled runnable] at same
    rw [signals]
    exact .inl ⟨⟨same, enough_after⟩, rfl⟩

theorem asleep_steps (stands : Stands sampleSize (.waiting sampleSize false) system)
    (applied : system.apply action = some after) :
    (Stands sampleSize (.waiting sampleSize false) after ∧ action ≠ .signal) ∨
      Stands sampleSize (.waiting sampleSize true) after := by
  obtain ⟨standing, enough⟩ := stands
  have awaits : system.phase.Awaits sampleSize := by
    rw [standing]
    rfl
  have grows := awaiting_grows awaits applied
  have enough_after := Nat.le_trans enough grows
  rcases apply_awaiting awaits applied with ⟨_, runnable, _⟩ | ⟨bytes, arrives, same, _⟩ | ⟨_, signalled, _⟩
  · rw [standing] at runnable
    cases runnable
  · rw [arrives]
    exact .inl ⟨⟨same.trans standing, enough_after⟩, nofun⟩
  · rw [standing] at signalled
    exact .inr ⟨signalled, enough_after⟩

theorem runnable_leadsTo (delivers : Delivers packets schedule) {phase : Phase}
    (awaits : phase.Awaits sampleSize) (runnable : phase.runnable = true)
    (next : ∀ length, bytesOf sampleSize ≤ UInt32.toNat length →
      schedule.LeadsTo (Stands sampleSize (phase.next length)) (Copies sampleSize)) :
    schedule.LeadsTo (Stands sampleSize phase) (Copies sampleSize) := by
  have stepped : schedule.LeadsTo (Stands sampleSize phase) fun system =>
      ∃ length, bytesOf sampleSize ≤ UInt32.toNat length ∧ Stands sampleSize (phase.next length) system := by
    apply delivers.runs.leadsTo
    · intro system stands
      rw [stands.1, runnable]
    · intro system action after stands applied
      exact (runnable_steps awaits runnable stands applied).imp And.left id
    · intro system action after stands loops applied
      rcases runnable_steps awaits runnable stands applied with ⟨_, other⟩ | stepped
      · rw [other] at loops
        cases loops
      · exact stepped
  apply stepped.trans
  intro time ⟨length, enough, stands⟩
  exact next length enough time stands

theorem signal_recurs (delivers : Delivers packets schedule) : schedule.Recurs fun action => action = .signal := by
  intro time
  obtain ⟨arrival, started, arrives⟩ := delivers.endless time
  obtain ⟨later, continued, signals⟩ := delivers.signalled arrival arrives
  exact ⟨later, Nat.le_trans started (Nat.le_of_lt continued), signals⟩

theorem asleep_leadsTo (delivers : Delivers packets schedule) :
    schedule.LeadsTo (Stands sampleSize (.waiting sampleSize false))
      (Stands sampleSize (.waiting sampleSize true)) := by
  have fair := (signal_recurs delivers).fair fun _ => True
  apply fair.leadsTo
  · intro system _
    trivial
  · intro system action after stands applied
    exact (asleep_steps stands applied).imp And.left id
  · intro system action after stands signals applied
    rcases asleep_steps stands applied with ⟨_, other⟩ | woken
    · exact absurd signals other
    · exact woken

theorem copying_leadsTo :
    schedule.LeadsTo (Stands sampleSize (.copying sampleSize)) (Copies sampleSize) :=
  Schedule.leadsTo_of_imp fun _ stands => stands.1

theorem looking_leadsTo (delivers : Delivers packets schedule) :
    schedule.LeadsTo (Stands sampleSize (.looking sampleSize)) (Copies sampleSize) := by
  refine runnable_leadsTo delivers rfl rfl fun length enough => ?_
  refine runnable_leadsTo delivers rfl rfl fun _ _ => ?_
  rw [Phase.next, Phase.next, if_neg (Nat.not_lt_of_le enough)]
  exact copying_leadsTo

theorem waiting_leadsTo (delivers : Delivers packets schedule) (signalled : Bool) :
    schedule.LeadsTo (Stands sampleSize (.waiting sampleSize signalled)) (Copies sampleSize) := by
  have woken : schedule.LeadsTo (Stands sampleSize (.waiting sampleSize true)) (Copies sampleSize) :=
    runnable_leadsTo delivers rfl rfl fun _ _ => looking_leadsTo delivers
  cases signalled with
  | false => exact (asleep_leadsTo delivers).trans woken
  | true => exact woken

theorem short_leadsTo (delivers : Delivers packets schedule) :
    schedule.LeadsTo (Stands sampleSize (.short sampleSize)) (Copies sampleSize) :=
  runnable_leadsTo delivers rfl rfl fun _ _ => waiting_leadsTo delivers false

-- Enough bytes are noticed sooner or later, also when the signal for them was missed.
theorem enough_leadsTo (delivers : Delivers packets schedule) {phase : Phase}
    (awaits : phase.Awaits sampleSize) :
    schedule.LeadsTo (Stands sampleSize phase) (Copies sampleSize) := by
  cases phase with
  | looking size =>
    cases awaits
    exact looking_leadsTo delivers
  | testing size seen =>
    cases awaits
    refine runnable_leadsTo delivers rfl rfl fun _ _ => ?_
    rw [Phase.next]
    split
    next => exact short_leadsTo delivers
    next => exact copying_leadsTo
  | short size =>
    cases awaits
    exact short_leadsTo delivers
  | waiting size signalled =>
    cases awaits
    exact waiting_leadsTo delivers signalled
  | idle | copying => cases awaits

theorem copies_iff_reaches (fixed : buffer.FixedLength capacity) (delivers : Delivers packets schedule)
    (begins : (schedule.state 0).phase = .looking sampleSize) :
    (∃ time, (schedule.state time).phase = .copying sampleSize) ↔
      ∃ n, bytesOf sampleSize ≤ buffered capacity (schedule.state 0) packets n := by
  have ready := fun time => Schedule.invariant (begins_ready begins)
    (fun _ _ _ ready applied => apply_ready ready applied) time
  constructor
  · intro ⟨time, copies⟩
    have reaches : ∀ earlier, (schedule.state earlier).phase = .copying sampleSize →
        Filled capacity packets schedule earlier →
        ∃ n, bytesOf sampleSize ≤ buffered capacity (schedule.state 0) packets n := by
      intro earlier standing filled
      have enough := (ready earlier).2 sampleSize standing
      rw [Filled] at filled
      exact ⟨_, by rwa [filled] at enough⟩
    rcases awaits_or_copies fixed delivers begins time with ⟨awaits, _⟩ | ⟨earlier, standing, filled⟩
    · rw [copies] at awaits
      cases awaits
    · exact reaches earlier standing filled
  · intro ⟨n, enough⟩
    obtain ⟨time, arrived⟩ := delivers.endless.count_unbounded n
    rcases awaits_or_copies fixed delivers begins time with ⟨awaits, filled⟩ | ⟨earlier, copies, _⟩
    · have there : bytesOf sampleSize ≤ (schedule.state time).unread.length := by
        rw [filled]
        exact Nat.le_trans enough (level_mono arrived)
      obtain ⟨later, _, copies⟩ := enough_leadsTo delivers awaits time ⟨rfl, there⟩
      exact ⟨later, copies⟩
    · exact ⟨earlier, copies⟩

theorem small_packets_end (fixed : buffer.FixedLength capacity) (nonempty : ∀ n, packets n ≠ [])
    (small : ∀ n, bytesOf sampleSize + (packets n).length ≤ capacity + 1)
    (delivers : Delivers packets schedule) (begins : (schedule.state 0).phase = .looking sampleSize) :
    ∃ time, (schedule.state time).phase = .copying sampleSize := by
  rw [copies_iff_reaches fixed delivers begins]
  exact small_reaches (fun n => List.length_pos_of_ne_nil (nonempty n)) small

theorem equal_packets_end_iff (fixed : buffer.FixedLength capacity) {size : Nat}
    (equal : ∀ n, (packets n).length = size) (delivers : Delivers packets schedule)
    (begins : (schedule.state 0).phase = .looking sampleSize) :
    (∃ time, (schedule.state time).phase = .copying sampleSize) ↔
      bytesOf sampleSize ≤ (schedule.state 0).unread.length ∨
        ∃ n, bytesOf sampleSize ≤ (schedule.state 0).unread.length + n * size ∧
          (schedule.state 0).unread.length + n * size ≤ capacity := by
  have sizes : (fun n => (packets n).length) = fun _ => size := funext equal
  rw [copies_iff_reaches fixed delivers begins]
  simp only [buffered, sizes]
  exact equal_reaches_iff

theorem wait_loop_ends_iff (fixed : buffer.FixedLength capacity) (nonempty : ∀ n, packets n ≠ [])
    (delivers : Delivers packets schedule) (begins : (schedule.state 0).phase = .looking sampleSize) :
    (∃ time, (schedule.state time).phase = .copying sampleSize) ↔
      ∀ n, buffered capacity (schedule.state 0) packets n < bytesOf sampleSize →
        ∃ m, n ≤ m ∧ buffered capacity (schedule.state 0) packets n + (packets m).length ≤ capacity := by
  rw [copies_iff_reaches fixed delivers begins]
  exact level_reaches_iff fun n => List.length_pos_of_ne_nil (nonempty n)

def fixedBuffer (capacity : Nat) (small : capacity < UInt32.size) : TPCircularBuffer where
  State := { bytes : List UInt8 // bytes.length ≤ capacity }
  tail := fun state => state.val
  produceBytes := fun state bytes =>
    if room : (state.val ++ bytes).length ≤ capacity then ⟨state.val ++ bytes, room⟩ else state
  consume := fun state amount =>
    ⟨state.val.drop amount.toNat, by
      rw [List.length_drop]
      exact Nat.le_trans (Nat.sub_le _ _) state.property⟩
  bounded := fun state => Nat.lt_of_le_of_lt state.property small
  produced := by
    intro state bytes
    split
    next => exact .inl rfl
    next => exact .inr rfl
  consumed := fun _ _ _ => rfl

theorem fixedBuffer_fixed (capacity : Nat) (small : capacity < UInt32.size) :
    (fixedBuffer capacity small).FixedLength capacity where
  within := fun state => state.property
  stored := by
    intro state bytes fits
    have room : (state.val ++ bytes).length ≤ capacity := by
      rw [List.length_append]
      exact fits
    exact congrArg Subtype.val (dif_pos room)
  dropped := by
    intro state bytes beyond
    have full : ¬(state.val ++ bytes).length ≤ capacity := by
      rw [List.length_append]
      exact Nat.not_le_of_lt beyond
    exact dif_neg full

def oneChannel : TPCircularBuffer := fixedBuffer CaptureDevice.kBufferLength (by decide)

def crowded : oneChannel.State := ⟨List.replicate 4000 0, by rw [List.length_replicate]; decide⟩

def fiftyFloats : List UInt8 := List.replicate 200 0

-- One turn of the loop: 4000 of the 4096 bytes are there, and 200 arrive.
def stuckStates : Nat → System oneChannel
  | 0 => ⟨crowded, 0, .looking 1024, []⟩
  | 1 => ⟨crowded, 0, .testing 1024 4000, []⟩
  | 2 => ⟨crowded, 0, .short 1024, []⟩
  | 3 => ⟨crowded, 0, .waiting 1024 false, []⟩
  | 4 => ⟨crowded, 1, .waiting 1024 false, []⟩
  | _ => ⟨crowded, 0, .waiting 1024 true, []⟩

def stuckActions : Nat → Action
  | 0 => .tail
  | 1 => .test
  | 2 => .wait
  | 3 => .produceBytes fiftyFloats
  | 4 => .signal
  | _ => .wake

theorem crowded_length : (oneChannel.tail crowded).length = 4000 := List.length_replicate

theorem crowded_drops : oneChannel.produceBytes crowded fiftyFloats = crowded := by
  have beyond : CaptureDevice.kBufferLength < (oneChannel.tail crowded).length + fiftyFloats.length := by
    rw [crowded_length, fiftyFloats, List.length_replicate]
    decide
  exact (fixedBuffer_fixed CaptureDevice.kBufferLength (by decide)).dropped crowded fiftyFloats beyond

theorem stuck_turns (place : Nat) (within : place < 6) :
    (stuckStates place).apply (stuckActions place) = some (stuckStates ((place + 1) % 6)) := by
  match place with
  | 0 =>
    simp only [stuckStates, stuckActions, System.apply, System.unread, crowded_length]
    rfl
  | 1 => rfl
  | 2 => rfl
  | 3 =>
    simp only [stuckStates, stuckActions, System.apply, crowded_drops]
  | 4 => rfl
  | 5 => rfl

def stuck : Schedule (@System.apply oneChannel) := Schedule.cycle (by decide) stuck_turns

theorem stuck_recurs {Acts : Action → Prop} (place : Nat) (within : place < 6) (acts : Acts (stuckActions place)) :
    stuck.Recurs Acts :=
  Schedule.cycle_recurs _ stuck_turns within acts

theorem stuck_delivers : Delivers (fun _ => fiftyFloats) stuck where
  ordered := by
    intro time bytes arrives
    change stuckActions (time % 6) = .produceBytes bytes at arrives
    generalize time % 6 = place at arrives
    unfold stuckActions at arrives
    split at arrives <;> cases arrives
    rfl
  endless := stuck_recurs 3 (by decide) rfl
  signalled := by
    intro time _
    have signals : stuck.Recurs fun action => action = .signal := stuck_recurs 4 (by decide) rfl
    exact signals (time + 1)
  runs := by
    have tails : stuck.Recurs fun action => action.ofLoop = true := stuck_recurs 0 (by decide) rfl
    exact tails.fair _

theorem stuck_never_copies (time : Nat) : (stuck.state time).phase ≠ .copying 1024 := by
  change (stuckStates (time % 6)).phase ≠ _
  unfold stuckStates
  split <;> nofun

theorem wait_loop_ends_iff_stuck :
    (∃ time, (stuck.state time).phase = .copying 1024) ↔
      ∀ n, buffered 4096 (stuck.state 0) (fun _ => fiftyFloats) n < bytesOf 1024 →
        ∃ m, n ≤ m ∧ buffered 4096 (stuck.state 0) (fun _ => fiftyFloats) n + fiftyFloats.length ≤ 4096 :=
  wait_loop_ends_iff (fixedBuffer_fixed _ _) (fun _ => nofun) stuck_delivers rfl

-- The bytes that are missing never come: no packet is small enough to be stored.
theorem sample_waits_for_ever :
    ¬∀ (buffer : TPCircularBuffer) (capacity : Nat) (channels : UInt8) (packets : Nat → List UInt8)
        (schedule : Schedule (@System.apply buffer)) (sampleSize : UInt32),
      buffer.FixedLength capacity → 0 < channels → CaptureDevice.kBufferLength * channels.toNat ≤ capacity →
      (∀ n, packets n ≠ [] ∧ (packets n).length ≤ capacity) → bytesOf sampleSize ≤ capacity →
      Delivers packets schedule → (schedule.state 0).phase = .looking sampleSize →
      ∃ time, (schedule.state time).phase = .copying sampleSize := by
  intro always
  have small : fiftyFloats.length ≤ 4096 := by
    rw [fiftyFloats, List.length_replicate]
    decide
  obtain ⟨time, copies⟩ := always oneChannel 4096 1 (fun _ => fiftyFloats) stuck 1024
    (fixedBuffer_fixed _ _) (by decide) (by decide) (fun _ => ⟨nofun, small⟩) (by decide) stuck_delivers rfl
  exact stuck_never_copies time copies

end MacAudioInput

end Pirks.Audio
