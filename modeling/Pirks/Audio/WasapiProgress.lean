import Pirks.Audio.WasapiCapture

set_option autoImplicit false

namespace Pirks.Audio

variable {Sample : Type}

namespace Turn

def packets : List (Turn Sample) → List (Packet Sample)
  | [] => []
  | turn :: turns =>
      if SUCCEEDED turn.nextPacketSize.1 ∧ turn.nextPacketSize.2 > 0 ∧ turn.getBuffer.1 = S_OK then
        turn.getBuffer.2 :: packets turns
      else []

def outcome : List (Turn Sample) → Option CaptureResult
  | [] => none
  | turn :: turns =>
      let status := turn.nextPacketSize.1
      if SUCCEEDED status ∧ turn.nextPacketSize.2 > 0 then
        if turn.getBuffer.1 = S_OK then outcome turns
        else if turn.getBuffer.1 = AUDCLNT_E_DEVICE_INVALIDATED then some .Reinit
        else some .Error
      else if status = AUDCLNT_E_DEVICE_INVALIDATED then some .Reinit
      else if FAILED status then some .Error
      else some .OK

end Turn

namespace Refill

def packets (refill : Refill Sample) : List (Packet Sample) := Turn.packets refill.turns

def outcome (changed : Bool) (refill : Refill Sample) : Option CaptureResult :=
  if changed || refill.notifications.any (fun notification => notification.flow = .eRender) then some .Reinit
  else if refill.wait = WAIT_OBJECT_0 then Turn.outcome refill.turns
  else if refill.wait = WAIT_TIMEOUT then some .Timeout
  else some .Error

def Returns (refill : Refill Sample) : Prop := refill.wait = WAIT_OBJECT_0 → (Turn.outcome refill.turns).isSome

-- audio_sample_size * channels_, in 32 bits
def samples (channels : UInt8) (packet : Packet Sample) : Nat :=
  packet.audioSampleSize.toNat * channels.toNat % UInt32.size

def offered (channels : UInt8) (refill : Refill Sample) : Nat := total (samples channels) refill.packets

end Refill

namespace WasapiAudioInput

variable [Zero Sample]

def Ends (input : WasapiAudioInput Sample) (request : Request Sample) (stream : Nat → Refill Sample) : Prop :=
  ∃ n, (input.sample request ((List.range n).map stream)).isSome

structure Filled (before after : WasapiAudioInput Sample) (amount : Nat) : Prop where
  length_eq : after.buffer.length = before.buffer.length
  channels_eq : after.channels = before.channels
  latch_eq : after.audioNotification = before.audioNotification
  bufferPos_eq : after.bufferPos = min before.buffer.length (before.bufferPos + amount)

variable {input next final : WasapiAudioInput Sample} {result : CaptureResult} {events : List (Event Sample)}

omit [Zero Sample] in
theorem Filled.refl (input : WasapiAudioInput Sample) : Filled input input 0 :=
  ⟨rfl, rfl, rfl, (Nat.min_eq_right input.inside).symm⟩

omit [Zero Sample] in
theorem Filled.trans {amount more : Nat} (first : Filled input next amount) (second : Filled next final more) :
    Filled input final (amount + more) where
  length_eq := second.length_eq.trans first.length_eq
  channels_eq := second.channels_eq.trans first.channels_eq
  latch_eq := second.latch_eq.trans first.latch_eq
  bufferPos_eq := by
    rw [second.bufferPos_eq, first.length_eq, first.bufferPos_eq]
    omega

theorem append_filled (input : WasapiAudioInput Sample) (packet : Packet Sample) :
    Filled input (input.append packet) (Refill.samples input.channels packet) where
  length_eq := overwrite_length (by simpa using input.appended_fits packet)
  channels_eq := rfl
  latch_eq := rfl
  bufferPos_eq := by
    have inside := input.inside
    have advanced : (input.append packet).bufferPos = input.bufferPos + input.appended packet := rfl
    rw [advanced, appended_eq, free, Refill.samples]
    omega

theorem capturePackets_outcome (input : WasapiAudioInput Sample) (turns : List (Turn Sample)) :
    (input.capturePackets turns).map (fun captured => captured.1) = Turn.outcome turns := by
  induction turns generalizing input with
  | nil => rfl
  | cons turn turns ih =>
    have later := ih (input.append turn.getBuffer.2)
    simp only [capturePackets, Turn.outcome]
    split
    next =>
      split
      next =>
        rw [← later]
        cases (input.append turn.getBuffer.2).capturePackets turns <;> rfl
      next => split <;> rfl
    next =>
      split
      next => rfl
      next => split <;> rfl

theorem capturePackets_filled {turns : List (Turn Sample)}
    (ran : input.capturePackets turns = some (result, final, events)) :
    Filled input final (total (Refill.samples input.channels) (Turn.packets turns)) := by
  induction turns generalizing input events with
  | nil => cases ran
  | cons turn turns ih =>
    simp only [capturePackets] at ran
    split at ran
    next more =>
      split at ran
      next got =>
        split at ran
        next followed =>
          cases ran
          have packets : Turn.packets (turn :: turns) = turn.getBuffer.2 :: Turn.packets turns := by
            rw [Turn.packets, if_pos ⟨more.1, more.2, got⟩]
          rw [packets, total]
          exact (append_filled input turn.getBuffer.2).trans (ih followed)
        next => cases ran
      next failed =>
        have nothing : Turn.packets (turn :: turns) = [] := by simp [Turn.packets, failed]
        rw [nothing]
        split at ran <;> cases ran <;> exact .refl _
    next done =>
      have nothing : Turn.packets (turn :: turns) = [] := by
        rw [Turn.packets, if_neg fun more => done ⟨more.1, more.2.1⟩]
      rw [nothing]
      split at ran
      next =>
        cases ran
        exact .refl _
      next => split at ran <;> cases ran <;> exact .refl _

omit [Zero Sample] in
theorem notifyAll_latch (input : WasapiAudioInput Sample) (notifications : List Notification) :
    (input.notifyAll notifications).audioNotification.defaultDeviceChanged =
      (input.audioNotification.defaultDeviceChanged ||
        notifications.any fun notification => notification.flow = .eRender) := by
  induction notifications generalizing input with
  | nil => simp [notifyAll]
  | cons notification rest ih =>
    have later := ih (input.notify notification)
    rw [notify, AudioNotificationImpl.onDefaultDeviceChanged_latch, Bool.or_assoc] at later
    exact later

omit [Zero Sample] in
theorem notifyAll_keeps (input : WasapiAudioInput Sample) (notifications : List Notification) :
    (input.notifyAll notifications).buffer = input.buffer ∧
      (input.notifyAll notifications).channels = input.channels ∧
      (input.notifyAll notifications).bufferPos = input.bufferPos := by
  induction notifications generalizing input with
  | nil => exact ⟨rfl, rfl, rfl⟩
  | cons notification rest ih => exact ih (input.notify notification)

theorem fillBuffer_outcome (input : WasapiAudioInput Sample) (refill : Refill Sample) :
    ((input.notifyAll refill.notifications).fillBuffer refill.wait refill.turns).map (fun filled => filled.1) =
      refill.outcome input.audioNotification.defaultDeviceChanged := by
  have changed := notifyAll_latch input refill.notifications
  simp only [fillBuffer, Refill.outcome, AudioNotificationImpl.checkDefaultDeviceChanged, ← changed]
  split
  next => rfl
  next =>
    split
    next =>
      rw [← capturePackets_outcome (input.notifyAll refill.notifications).checked, Option.map_map]
      rfl
    next => split <;> rfl

theorem fillBuffer_ok {refill : Refill Sample}
    (ran : (input.notifyAll refill.notifications).fillBuffer refill.wait refill.turns =
      some (.OK, next, events)) :
    next.buffer.length = input.buffer.length ∧ next.channels = input.channels ∧
      next.audioNotification.defaultDeviceChanged = false ∧
      next.bufferPos = min input.buffer.length (input.bufferPos + refill.offered input.channels) := by
  obtain ⟨buffer, channels, position⟩ := notifyAll_keeps input refill.notifications
  simp only [fillBuffer] at ran
  split at ran
  next => cases ran
  next =>
    split at ran
    next =>
      obtain ⟨⟨_, _, captures⟩, captured, same⟩ := Option.map_eq_some_iff.mp ran
      cases same
      have filled := capturePackets_filled captured
      refine ⟨filled.length_eq.trans (congrArg List.length buffer), filled.channels_eq.trans channels,
        congrArg AudioNotificationImpl.defaultDeviceChanged filled.latch_eq, ?_⟩
      rw [filled.bufferPos_eq]
      simp only [checked, buffer, channels, position]
      rfl
    next => split at ran <;> cases ran

def Succeed : Bool → List (Refill Sample) → Prop
  | _, [] => True
  | changed, refill :: rest => refill.outcome changed = some .OK ∧ Succeed false rest

omit [Zero Sample] in
theorem outcome_isSome {refill : Refill Sample} (returns : refill.Returns) (changed : Bool) :
    (refill.outcome changed).isSome := by
  unfold Refill.outcome
  split
  next => rfl
  next =>
    split
    next signalled => exact returns signalled
    next => split <;> rfl

theorem refill_none_iff {sampleSize : Nat} {input : WasapiAudioInput Sample} {refills : List (Refill Sample)}
    (returns : ∀ refill ∈ refills, refill.Returns) :
    refill sampleSize input refills = none ↔
      Succeed input.audioNotification.defaultDeviceChanged refills ∧
        min input.buffer.length
          (input.bufferPos + total (Refill.offered input.channels) refills) < sampleSize := by
  induction refills generalizing input with
  | nil =>
    have inside := input.inside
    by_cases short : input.bufferPos < sampleSize
    · have less : min input.buffer.length input.bufferPos < sampleSize := by omega
      simp [refill, short, Succeed, total, less]
    · simp only [refill, short, if_false, reduceCtorEq, false_iff]
      intro both
      have less := both.2
      simp only [total] at less
      omega
  | cons refill_ rest ih =>
    have inside := input.inside
    have outcome := fillBuffer_outcome input refill_
    have returned := outcome_isSome (returns refill_ (by simp)) input.audioNotification.defaultDeviceChanged
    by_cases short : input.bufferPos < sampleSize
    case neg =>
      simp only [refill, short, if_false, reduceCtorEq, false_iff]
      intro both
      have less := both.2
      omega
    simp only [refill, short, if_true, Succeed]
    split
    next next events filled =>
      rw [filled] at outcome
      obtain ⟨length, channels, latch, position⟩ := fillBuffer_ok filled
      have later := @ih next fun other member => returns other (by simp [member])
      rw [length, channels, latch, position] at later
      have sum : min input.buffer.length (min input.buffer.length (input.bufferPos +
          refill_.offered input.channels) + total (Refill.offered input.channels) rest) =
          min input.buffer.length (input.bufferPos + (refill_.offered input.channels +
            total (Refill.offered input.channels) rest)) := by
        omega
      rw [sum] at later
      rw [← outcome]
      cases followed : refill sampleSize next rest with
      | none => simpa [followed, total] using later
      | some ended => simpa [followed, total] using later
    next other next events failed filled =>
      rw [filled] at outcome
      simp only [← outcome, Option.map_some, Option.some.injEq, reduceCtorEq, false_iff]
      exact fun both => failed both.1.1
    next filled =>
      rw [filled] at outcome
      simp [← outcome] at returned

def latchAt (changed : Bool) : Nat → Bool
  | 0 => changed
  | _ + 1 => false

omit [Zero Sample] in
theorem succeed_range_iff (changed : Bool) (stream : Nat → Refill Sample) (n : Nat) :
    Succeed changed ((List.range n).map stream) ↔
      ∀ i, i < n → (stream i).outcome (latchAt changed i) = some .OK := by
  induction n generalizing changed stream with
  | zero => simp [Succeed]
  | succ n ih =>
    have later := ih false fun i => stream (i + 1)
    rw [List.range_succ_eq_map, List.map_cons, List.map_map, Succeed]
    have unlatched (i : Nat) : latchAt false i = false := by cases i <;> rfl
    simp only [unlatched] at later
    rw [show stream ∘ Nat.succ = fun i => stream (i + 1) from rfl, later]
    constructor
    · intro ⟨first, rest⟩ i inside
      cases i with
      | zero => exact first
      | succ i => exact rest i (by omega)
    · intro every
      exact ⟨every 0 (by omega), fun i inside => every (i + 1) (by omega)⟩

theorem sample_none_iff (input : WasapiAudioInput Sample) (request : Request Sample)
    (refills : List (Refill Sample)) :
    input.sample request refills = none ↔ refill request.sampleOut.length input refills = none := by
  simp only [sample]
  split
  next ran => simp [ran]
  next ran => simp [ran]
  next ran => simp [ran]

theorem ends_iff (input : WasapiAudioInput Sample) (request : Request Sample)
    {stream : Nat → Refill Sample} (returns : ∀ n, (stream n).Returns) :
    input.Ends request stream ↔
      (∃ n, (stream n).outcome (latchAt input.audioNotification.defaultDeviceChanged n) ≠ some .OK) ∨
        request.sampleOut.length ≤ input.buffer.length ∧ ∃ n, request.sampleOut.length ≤
          input.bufferPos + total (fun i => (stream i).offered input.channels) (List.range n) := by
  have going (n : Nat) : ∀ refill ∈ (List.range n).map stream, refill.Returns := by simp [returns]
  have goesOn (n : Nat) := (sample_none_iff input request _).trans (refill_none_iff (going n))
  simp only [succeed_range_iff, total_map] at goesOn
  constructor
  · intro ⟨n, ended⟩
    by_cases fails : ∃ n, (stream n).outcome (latchAt input.audioNotification.defaultDeviceChanged n) ≠ some .OK
    · exact .inl fails
    · have succeed := not_exists_not.mp fails
      have full : request.sampleOut.length ≤ min input.buffer.length
          (input.bufferPos + total (fun i => (stream i).offered input.channels) (List.range n)) := by
        by_contra short
        rw [(goesOn n).mpr ⟨fun i _ => succeed i, Nat.lt_of_not_le short⟩] at ended
        cases ended
      exact .inr ⟨by omega, n, by omega⟩
  · intro either
    rcases either with ⟨n, failed⟩ | ⟨fits, n, enough⟩
    · refine ⟨n + 1, Option.isSome_iff_ne_none.mpr fun unended => ?_⟩
      exact failed (((goesOn (n + 1)).mp unended).1 n (Nat.lt_succ_self n))
    · refine ⟨n, Option.isSome_iff_ne_none.mpr fun unended => ?_⟩
      have less := ((goesOn n).mp unended).2
      omega

-- Every refill adds at least one sample, so the buffer fills up.
theorem ends_of_progress (input : WasapiAudioInput Sample) {request : Request Sample}
    {stream : Nat → Refill Sample} (returns : ∀ n, (stream n).Returns)
    (offers : ∀ n, 0 < (stream n).offered input.channels)
    (fits : request.sampleOut.length ≤ input.buffer.length) : input.Ends request stream := by
  have grows (n : Nat) : n ≤ total (fun i => (stream i).offered input.channels) (List.range n) := by
    induction n with
    | zero => exact Nat.zero_le _
    | succ n ih =>
      have next := offers n
      rw [List.range_succ, total_append]
      simp only [total]
      omega
  have enough := grows request.sampleOut.length
  exact (ends_iff input request returns).mpr (.inr ⟨fits, request.sampleOut.length, by omega⟩)

def Delivers (stream : Nat → Refill Sample) : Prop :=
  ∀ n changed, (stream n).outcome changed = some .OK →
    ∃ packet ∈ (stream n).packets, 0 < packet.audioSampleSize.toNat

def Counts (channels : UInt8) (stream : Nat → Refill Sample) : Prop :=
  ∀ n, ∀ packet ∈ (stream n).packets, 0 < packet.audioSampleSize.toNat →
    packet.audioSampleSize.toNat * channels.toNat % UInt32.size ≠ 0

omit [Zero Sample] in
theorem offered_pos {channels : UInt8} {stream : Nat → Refill Sample} (delivers : Delivers stream)
    (counts : Counts channels stream) {n : Nat} {changed : Bool}
    (succeeds : (stream n).outcome changed = some .OK) : 0 < (stream n).offered channels := by
  obtain ⟨packet, member, frames⟩ := delivers n changed succeeds
  have samples := counts n packet member frames
  exact Nat.lt_of_lt_of_le (Nat.pos_of_ne_zero samples) (le_total (Refill.samples channels) member)

theorem sample_ends_iff (input : WasapiAudioInput Sample) (request : Request Sample)
    (stream : Nat → Refill Sample) (returns : ∀ n, (stream n).Returns) :
    (input.Ends request stream ↔
      (∃ n, (stream n).outcome (latchAt input.audioNotification.defaultDeviceChanged n) ≠ some .OK) ∨
        request.sampleOut.length ≤ input.buffer.length ∧ ∃ n, request.sampleOut.length ≤
          input.bufferPos + total (fun i => (stream i).offered input.channels) (List.range n)) ∧
    (Delivers stream → Counts input.channels stream →
      (input.Ends request stream ↔
        (∃ n, (stream n).outcome (latchAt input.audioNotification.defaultDeviceChanged n) ≠ some .OK) ∨
          request.sampleOut.length ≤ input.buffer.length)) := by
  have exactly := ends_iff input request returns
  refine ⟨exactly, fun delivers counts => ?_⟩
  constructor
  · intro ends
    exact (exactly.mp ends).imp_right fun both => both.1
  · intro either
    by_cases fails : ∃ n, (stream n).outcome (latchAt input.audioNotification.defaultDeviceChanged n) ≠ some .OK
    · exact exactly.mpr (.inl fails)
    · have succeed := not_exists_not.mp fails
      exact ends_of_progress input returns (fun n => offered_pos delivers counts (succeed n))
        (either.resolve_left fails)

def trickle (_ : Nat) : Refill Float32 :=
  ⟨[], WAIT_OBJECT_0,
    [⟨(S_OK, 1), (S_OK, ⟨1, true, Float32.ofNat⟩)⟩, ⟨(S_OK, 0), (S_OK, ⟨0, true, Float32.ofNat⟩)⟩]⟩

theorem trickle_returns (n : Nat) : (trickle n).Returns := fun _ => rfl

theorem trickle_delivers : Delivers trickle :=
  fun _ _ _ => ⟨⟨1, true, Float32.ofNat⟩, .head _, by decide⟩

def nineSamples : Request Float32 := ⟨List.replicate 9 1, by decide⟩

theorem sample_ends_iff_trickle :
    (start 2 8 : WasapiAudioInput Float32).Ends nineSamples trickle ↔
      (∃ n, (trickle n).outcome (latchAt false n) ≠ some .OK) ∨
        9 ≤ 8 ∧ ∃ n, 9 ≤ 0 + total (fun i => (trickle i).offered 2) (List.range n) :=
  (sample_ends_iff (start 2 8) nineSamples trickle trickle_returns).1

-- The buffer of a stereo device with two frames holds 8 samples, and the caller asks for 9.
theorem sample_never_ends :
    ¬∀ (frames frameSize : UInt32) (channels : UInt8) (request : Request Float32)
        (stream : Nat → Refill Float32), (∀ n, (stream n).Returns) → Delivers stream →
      (start channels (bufferSize frames frameSize channels)).Ends request stream := by
  intro always
  have ends := always 2 1 2 nineSamples trickle trickle_returns trickle_delivers
  have either := (ends_iff _ nineSamples trickle_returns).mp ends
  rcases either with ⟨n, failed⟩ | ⟨fits, _⟩
  · cases n <;> exact failed rfl
  · exact absurd fits (by decide)

end WasapiAudioInput

end Pirks.Audio
