import Pirks.Audio.WasapiCapacity
import Pirks.Audio.WasapiStream
import Pirks.Foundation.Interleaving

set_option autoImplicit false

namespace Pirks.Audio.WasapiAudioInput

open Interleaving

variable {Sample : Type} [Zero Sample]

/-- What the code stores of a packet lies in the free part of the buffer and in the packet, and neither its
place nor its length splits a frame. -/
structure Within (channels : UInt8) (size free : Nat) (packet : Packet Sample) : Prop where
  free_le : free ≤ size
  place : channels.toNat ∣ size - free
  fits : (stored channels (.captured free packet)).length ≤ free
  present : (stored channels (.captured free packet)).length ≤ packet.audioSampleSize.toNat * channels.toNat
  frames : channels.toNat ∣ (stored channels (.captured free packet)).length

structure Handed (Belongs : Nat → Sample → Prop) (channels : UInt8) (size : Nat) (call : Returned Sample) :
    Prop where
  bounded : call.sampleOut.length + call.residueAfter.length ≤ size
  filled : call.sampleOutAfter.length = call.sampleOut.length
  lanes : Interleaved channels.toNat Belongs call.sampleOutAfter

def Sound (Belongs : Nat → Sample → Prop) (channels : UInt8) (size : Nat) : Event Sample → Prop
  | .captured free packet => Within channels size free packet
  | .returned call =>
      call.residueAfter.length ≤ size ∧ channels.toNat ∣ call.residueAfter.length ∧
        (call.result = .OK → Handed Belongs channels size call)
  | _ => True

structure Aligned (Belongs : Nat → Sample → Prop) (channels : UInt8) (size : Nat)
    (input : WasapiAudioInput Sample) : Prop where
  channels_eq : input.channels = channels
  length_eq : input.buffer.length = size
  position : channels.toNat ∣ input.bufferPos
  lanes : Interleaved channels.toNat Belongs input.residue

def Carries (Belongs : Nat → Sample → Prop) (channels : UInt8) (packet : Packet Sample) : Prop :=
  packet.audioSampleSize.toNat * channels.toNat < UInt32.size ∧
    Interleaved channels.toNat Belongs (contents channels packet)

variable {Belongs : Nat → Sample → Prop} {channels : UInt8} {size : Nat}
  {input next final : WasapiAudioInput Sample} {events log : List (Event Sample)}

omit [Zero Sample] in
theorem residue_length (input : WasapiAudioInput Sample) : input.residue.length = input.bufferPos := by
  have inside := input.inside
  rw [residue, List.length_take, Nat.min_eq_left inside]

omit [Zero Sample] in
theorem Aligned.free (aligned : Aligned Belongs channels size input) :
    input.bufferPos + input.free = size := by
  have inside := input.inside
  have length := aligned.length_eq
  unfold WasapiAudioInput.free
  omega

theorem dvd_min {d first second : Nat} (left : d ∣ first) (right : d ∣ second) : d ∣ min first second := by
  rcases Nat.le_total first second with small | big
  next => rwa [Nat.min_eq_left small]
  next => rwa [Nat.min_eq_right big]

theorem stored_length {free : Nat} {packet : Packet Sample}
    (counted : packet.audioSampleSize.toNat * channels.toNat < UInt32.size) :
    (stored channels (.captured free packet)).length =
      min free (packet.audioSampleSize.toNat * channels.toNat) := by
  rw [stored, Packet.first_length, Nat.mod_eq_of_lt counted]

theorem Aligned.within (aligned : Aligned Belongs channels size input) (whole : channels.toNat ∣ size)
    {packet : Packet Sample} (carries : Carries Belongs channels packet) :
    Within channels size input.free packet := by
  have split_ := aligned.free
  have place : size - input.free = input.bufferPos := by omega
  have length : (stored channels (.captured input.free packet)).length =
      min input.free (packet.audioSampleSize.toNat * channels.toNat) := stored_length carries.1
  have frames : channels.toNat ∣ input.free := by
    have rest : input.free = size - input.bufferPos := by omega
    rw [rest]
    exact Nat.dvd_sub whole aligned.position
  exact
    { free_le := by omega
      place := by rw [place]; exact aligned.position
      fits := by rw [length]; exact Nat.min_le_left _ _
      present := by rw [length]; exact Nat.min_le_right _ _
      frames := by rw [length]; exact dvd_min frames (Nat.dvd_mul_left _ _) }

theorem Aligned.append (aligned : Aligned Belongs channels size input) (whole : channels.toNat ∣ size)
    {packet : Packet Sample} (carries : Carries Belongs channels packet) :
    Aligned Belongs channels size (input.append packet) := by
  have within := aligned.within whole carries
  have count : input.appended packet = (stored channels (.captured input.free packet)).length := by
    rw [appended_eq, aligned.channels_eq, stored, Packet.first_length]
  have written : packet.first (input.appended packet) =
      (contents channels packet).take (input.appended packet) := by
    rw [contents, Packet.take_first, Nat.min_eq_left (by rw [count]; exact within.present)]
  exact
    { channels_eq := aligned.channels_eq
      length_eq := by
        change (overwrite _ _ _).length = size
        rw [overwrite_length (by simpa using input.appended_fits packet), aligned.length_eq]
      position := by
        change channels.toNat ∣ input.bufferPos + input.appended packet
        rw [count]
        exact Nat.dvd_add aligned.position within.frames
      lanes := by
        rw [append_residue, written]
        apply aligned.lanes.append (carries.2.take _)
        rw [residue_length]
        exact aligned.position }

structure Keeps (Belongs : Nat → Sample → Prop) (channels : UInt8) (size : Nat)
    (before after : WasapiAudioInput Sample) (events : List (Event Sample)) : Prop where
  kept : (∀ free packet, .captured free packet ∈ events → Carries Belongs channels packet) →
    Aligned Belongs channels size before → Aligned Belongs channels size after ∧
      ∀ event ∈ events, Sound Belongs channels size event

omit [Zero Sample] in
theorem Aligned.same (aligned : Aligned Belongs channels size input) (buffer : next.buffer = input.buffer)
    (position : next.bufferPos = input.bufferPos) (channels_ : next.channels = input.channels) :
    Aligned Belongs channels size next where
  channels_eq := channels_.trans aligned.channels_eq
  length_eq := by rw [buffer, aligned.length_eq]
  position := by
    rw [position]
    exact aligned.position
  lanes := by
    rw [residue, buffer, position]
    exact aligned.lanes

theorem keeps_tracks (whole : channels.toNat ∣ size) :
    Tracks (Keeps Belongs channels size : WasapiAudioInput Sample → _) where
  refl := fun input => ⟨fun _ aligned => ⟨aligned, by simp⟩⟩
  trans := by
    intro first second third events later before after
    constructor
    intro delivered aligned
    obtain ⟨middle, here⟩ := before.kept (fun free packet member => delivered free packet (by simp [member])) aligned
    obtain ⟨ended, there⟩ := after.kept (fun free packet member => delivered free packet (by simp [member])) middle
    exact ⟨ended, List.forall_mem_append.mpr ⟨here, there⟩⟩
  append := by
    intro input packet
    constructor
    intro delivered aligned
    have carries := delivered input.free packet (by simp)
    exact ⟨aligned.append whole carries, by simpa [Sound] using aligned.within whole carries⟩
  check := fun _ => ⟨fun _ aligned => ⟨aligned.same rfl rfl rfl, by simp [Sound]⟩⟩
  notify := fun _ _ => ⟨fun _ aligned => ⟨aligned.same rfl rfl rfl, by simp [Sound]⟩⟩

omit [Zero Sample] in
theorem Aligned.shift (aligned : Aligned Belongs channels size input) {count : Nat}
    (request : channels.toNat ∣ count) : Aligned Belongs channels size (input.shift count) where
  channels_eq := aligned.channels_eq
  length_eq := by
    change (overwrite _ _ _).length = size
    rw [overwrite_length (input.shift_fits count), aligned.length_eq]
  position := Nat.dvd_sub aligned.position request
  lanes := by
    rw [shift_residue]
    exact aligned.lanes.drop request

theorem sample_keeps (whole : channels.toNat ∣ size) {request : Request Sample} {refills : List (Refill Sample)}
    {call : Returned Sample} (ran : input.sample request refills = some (call, final, events))
    (requested : channels.toNat ∣ request.sampleOut.length)
    (delivered : ∀ free packet, .captured free packet ∈ events → Carries Belongs channels packet)
    (aligned : Aligned Belongs channels size input) :
    Aligned Belongs channels size final ∧ ∀ event ∈ events ++ [.returned call], Sound Belongs channels size event := by
  obtain ⟨result, next, filled, outcome⟩ := sample_cases ran
  obtain ⟨reached, sound⟩ := ((keeps_tracks whole).refill filled).kept delivered aligned
  have left {state : WasapiAudioInput Sample} (still : Aligned Belongs channels size state) :
      state.residue.length ≤ size ∧ channels.toNat ∣ state.residue.length := by
    rw [residue_length]
    have inside := still.free
    exact ⟨by omega, still.position⟩
  rcases outcome with ⟨rfl, rfl, rfl⟩ | ⟨failed, rfl, rfl⟩
  next =>
    have enough := refill_enough filled
    have moved := reached.shift requested
    have handed : Handed Belongs channels size ⟨.OK, request.sampleOut,
        overwrite request.sampleOut 0 (next.buffer.take request.sampleOut.length), input.residue,
        (next.shift request.sampleOut.length).residue⟩ :=
      { bounded := by
          have inside := reached.free
          have rest : (next.shift request.sampleOut.length).residue.length =
              next.bufferPos - request.sampleOut.length := residue_length _
          change request.sampleOut.length + (next.shift request.sampleOut.length).residue.length ≤ size
          omega
        filled := by
          change (overwrite _ _ _).length = _
          rw [copied_eq enough, List.length_take, residue_length, Nat.min_eq_left enough]
        lanes := by
          change Interleaved _ _ (overwrite _ _ _)
          rw [copied_eq enough]
          exact reached.lanes.take _ }
    refine ⟨moved, List.forall_mem_append.mpr ⟨sound, ?_⟩⟩
    simpa [Sound, handed] using left moved
  next =>
    refine ⟨reached, List.forall_mem_append.mpr ⟨sound, ?_⟩⟩
    simpa [Sound, failed] using left reached

def Promised (Belongs : Nat → Sample → Prop) (channels : UInt8) : Event Sample → Prop
  | .captured _ packet => Carries Belongs channels packet
  | .returned call => channels.toNat ∣ call.sampleOut.length
  | _ => True

theorem step_aligned (whole : channels.toNat ∣ size) {action : Action Sample}
    (taken : input.step action = some (next, events)) (promised : ∀ event ∈ events, Promised Belongs channels event)
    (aligned : Aligned Belongs channels size input) :
    Aligned Belongs channels size next ∧ ∀ event ∈ events, Sound Belongs channels size event := by
  cases action with
  | notify notification =>
    cases taken
    exact ⟨aligned.same rfl rfl rfl, by simp [Sound]⟩
  | sample request refills =>
    simp only [step] at taken
    split at taken
    next call _ captured ran =>
      cases taken
      have asked : channels.toNat ∣ request.sampleOut.length := by
        have here := promised (.returned call) (by simp)
        obtain ⟨_, _, _, outcome⟩ := sample_cases ran
        rcases outcome with ⟨_, _, rfl⟩ | ⟨_, _, rfl⟩ <;> exact here
      apply sample_keeps whole ran asked _ aligned
      intro free packet member
      exact promised (.captured free packet) (by simp [member])
    next => cases taken

theorem run_aligned (whole : channels.toNat ∣ size) {actions : List (Action Sample)}
    (ran : Machine.run step input actions = some (final, log)) (promised : ∀ event ∈ log, Promised Belongs channels event)
    (aligned : Aligned Belongs channels size input) :
    Aligned Belongs channels size final ∧ ∀ event ∈ log, Sound Belongs channels size event := by
  have kept := Machine.run_preserves
    (fun state past => (∀ event ∈ past, Promised Belongs channels event) →
      Aligned Belongs channels size state ∧ ∀ event ∈ past, Sound Belongs channels size event)
    (by
      intro state past action next new (_ : True) holds taken promises
      obtain ⟨before, after⟩ := List.forall_mem_append.mp promises
      obtain ⟨here, sound⟩ := holds before
      obtain ⟨there, fresh⟩ := step_aligned whole taken after here
      exact ⟨there, List.forall_mem_append.mpr ⟨sound, fresh⟩⟩)
    [] (fun _ _ => trivial) (fun _ => ⟨aligned, by simp⟩) ran
  exact kept promised

theorem start_aligned (channels : UInt8) (size : UInt32) :
    Aligned Belongs channels size.toNat (start channels size : WasapiAudioInput Sample) where
  channels_eq := rfl
  length_eq := List.length_replicate
  position := Nat.dvd_zero _
  lanes := Interleaved.nil

def FromChannel (channels : UInt8) (log : List (Event Sample)) (channel : Nat) (value : Sample) : Prop :=
  ∃ free packet index, .captured free packet ∈ log ∧ index % channels.toNat = channel ∧
    (contents channels packet)[index]? = some value

theorem sample_buffer_aligned (frames frameSize : UInt32) (channels : UInt8)
    (unwrapped : max frames.toNat frameSize.toNat * 2 * channels.toNat < UInt32.size)
    (actions : List (Action Sample)) (final : WasapiAudioInput Sample) (log : List (Event Sample))
    (ran : Machine.run step (start channels (bufferSize frames frameSize channels)) actions = some (final, log))
    (requests : ∀ call, .returned call ∈ log → channels.toNat ∣ call.sampleOut.length)
    (packets : ∀ free packet, .captured free packet ∈ log →
      packet.audioSampleSize.toNat * channels.toNat < UInt32.size) :
    final.buffer.length = max frames.toNat frameSize.toNat * 2 * channels.toNat ∧
      final.bufferPos ≤ final.buffer.length ∧ channels.toNat ∣ final.bufferPos ∧
      ∀ event ∈ log, Sound (FromChannel channels log) channels
        (max frames.toNat frameSize.toNat * 2 * channels.toNat) event := by
  have product : max frames.toNat frameSize.toNat * 2 * channels.toNat =
      2 * channels.toNat * max frames.toNat frameSize.toNat := by
    rw [Nat.mul_assoc, Nat.mul_comm]
  have sized : (bufferSize frames frameSize channels).toNat =
      max frames.toNat frameSize.toNat * 2 * channels.toNat := by
    rw [bufferSize_toNat, ← product, Nat.mod_eq_of_lt unwrapped]
  have promised : ∀ event ∈ log, Promised (FromChannel channels log) channels event := by
    intro event member
    cases event with
    | captured free packet =>
      refine ⟨packets free packet member, ?_⟩
      intro index value found
      exact ⟨free, packet, index, member, rfl, found⟩
    | returned call => exact requests call member
    | notified | checked => trivial
  have initial : Aligned (FromChannel channels log) channels (bufferSize frames frameSize channels).toNat
      (start channels (bufferSize frames frameSize channels)) := start_aligned channels _
  rw [sized] at initial
  obtain ⟨aligned, sound⟩ := run_aligned (Nat.dvd_mul_left _ _) ran promised initial
  exact ⟨aligned.length_eq, final.inside, aligned.position, sound⟩

-- Three frames come for a buffer of two: the third one is cut off as a whole.
def overflowCall : List (Action Float32) :=
  [.sample ⟨[8, 8], by decide⟩ [⟨[], WAIT_OBJECT_0,
    [⟨(S_OK, 3), (S_OK, ⟨3, false, Float32.ofNat⟩)⟩, ⟨(S_OK, 0), (S_OK, ⟨0, true, Float32.ofNat⟩)⟩]⟩]]

theorem sample_buffer_aligned_overflow :
    ∃ (final : WasapiAudioInput Float32) (log : List (Event Float32)),
      Machine.run step (start 2 (bufferSize 1 1 2)) overflowCall = some (final, log) ∧
      (log.flatMap output, final.residue) = ([0, 1], [2, 3]) ∧
      final.buffer.length = 4 ∧ final.bufferPos ≤ final.buffer.length ∧ 2 ∣ final.bufferPos ∧
      ∀ event ∈ log, Sound (FromChannel 2 log) 2 4 event :=
  let final : WasapiAudioInput Float32 := ⟨[2, 3, 2, 3], 2, 2, ⟨false⟩, by decide, by decide⟩
  let log : List (Event Float32) :=
    [.checked false, .captured 4 ⟨3, false, Float32.ofNat⟩, .returned ⟨.OK, [8, 8], [0, 1], [], [2, 3]⟩]
  have ran : Machine.run step (start 2 (bufferSize 1 1 2)) overflowCall = some (final, log) := rfl
  have requests : ∀ call, .returned call ∈ log → (2 : UInt8).toNat ∣ call.sampleOut.length := by
    intro call member
    simp only [log, List.mem_cons, reduceCtorEq, List.not_mem_nil, or_false, false_or] at member
    injection member with same
    subst same
    decide
  have packets : ∀ free packet, .captured free packet ∈ log →
      packet.audioSampleSize.toNat * (2 : UInt8).toNat < UInt32.size := by
    intro free packet member
    simp only [log, List.mem_cons, reduceCtorEq, List.not_mem_nil, or_false, false_or] at member
    injection member with _ same
    subst same
    decide
  ⟨final, log, ran, rfl, sample_buffer_aligned 1 1 2 (by decide) overflowCall final log ran requests packets⟩

end Pirks.Audio.WasapiAudioInput
