import Mathlib.Tactic.Common
import Pirks.Audio.CoreAudio
import Pirks.Foundation.Machine

set_option autoImplicit false

namespace Pirks.Audio

variable {Sample : Type}

def overwrite (buffer : List Sample) (position : Nat) (values : List Sample) : List Sample :=
  buffer.take position ++ values ++ buffer.drop (position + values.length)

theorem overwrite_length {buffer values : List Sample} {position : Nat}
    (fits : position + values.length ≤ buffer.length) :
    (overwrite buffer position values).length = buffer.length := by
  simp only [overwrite, List.length_append, List.length_take, List.length_drop]
  omega

theorem overwrite_take {buffer values : List Sample} {position : Nat}
    (fits : position + values.length ≤ buffer.length) :
    (overwrite buffer position values).take (position + values.length) = buffer.take position ++ values := by
  have written : (buffer.take position ++ values).length = position + values.length := by
    simp only [List.length_append, List.length_take]
    omega
  rw [overwrite, ← written, List.take_left]

def total {A : Type} (amount : A → Nat) : List A → Nat
  | [] => 0
  | item :: rest => amount item + total amount rest

theorem total_append {A : Type} (amount : A → Nat) (items others : List A) :
    total amount (items ++ others) = total amount items + total amount others := by
  induction items with
  | nil => simp [total]
  | cons item rest ih => simp [total, ih, Nat.add_assoc]

theorem total_map {A B : Type} (amount : B → Nat) (f : A → B) (items : List A) :
    total amount (items.map f) = total (fun item => amount (f item)) items := by
  induction items with
  | nil => rfl
  | cons item rest ih => simp [total, ih]

theorem le_total {A : Type} (amount : A → Nat) {items : List A} {item : A} (member : item ∈ items) :
    amount item ≤ total amount items := by
  induction member with
  | head => exact Nat.le_add_right _ _
  | tail _ _ ih => exact Nat.le_trans ih (Nat.le_add_left _ _)

-- The members that sample() and fillBuffer() use; bufferPos is bufferPos_ - buffer_.data().
structure WasapiAudioInput (Sample : Type) where
  buffer : List Sample
  bufferPos : Nat
  channels : UInt8
  audioNotification : AudioNotificationImpl
  sized : buffer.length < UInt32.size
  inside : bufferPos ≤ buffer.length

-- What GetBuffer hands out: the number of frames, the silent flag, and where the samples are.
structure Packet (Sample : Type) where
  audioSampleSize : UInt32
  silent : Bool
  samples : Nat → Sample

structure Turn (Sample : Type) where
  nextPacketSize : HRESULT × UInt32
  getBuffer : HRESULT × Packet Sample

structure Notification where
  flow : EDataFlow
  role : ERole
  deviceId : String

-- One call of fillBuffer: the callbacks that came in since the last one, and the device's replies.
structure Refill (Sample : Type) where
  notifications : List Notification
  wait : DWORD
  turns : List (Turn Sample)

-- The caller's vector; the assertion in sample() bounds its size.
structure Request (Sample : Type) where
  sampleOut : List Sample
  bounded : sampleOut.length < 0x7FFFFFFF

structure Returned (Sample : Type) where
  result : CaptureResult
  sampleOut : List Sample
  sampleOutAfter : List Sample
  residue : List Sample
  residueAfter : List Sample

inductive Event (Sample : Type) where
  | notified (notification : Notification)
  | checked (reinit : Bool)
  | captured (free : Nat) (packet : Packet Sample)
  | returned (call : Returned Sample)

inductive Action (Sample : Type) where
  | notify (notification : Notification)
  | sample (request : Request Sample) (refills : List (Refill Sample))

section Capture

variable [Zero Sample]

-- std::fill_n or std::copy_n of n samples
def Packet.first (packet : Packet Sample) (n : Nat) : List Sample :=
  if packet.silent then List.replicate n 0 else (List.range n).map packet.samples

@[simp]
theorem Packet.first_length (packet : Packet Sample) (n : Nat) : (packet.first n).length = n := by
  unfold first
  split <;> simp

theorem Packet.take_first (packet : Packet Sample) (count n : Nat) :
    (packet.first n).take count = packet.first (min count n) := by
  unfold first
  split
  · simp
  · rw [← List.map_take, List.take_range]

namespace WasapiAudioInput

-- std::max(frames, frame_size) * 2 * channels_
def bufferSize (frames frameSize : UInt32) (channels : UInt8) : UInt32 :=
  max frames frameSize * 2 * channels.toUInt32

def start (channels : UInt8) (size : UInt32) : WasapiAudioInput Sample where
  buffer := List.replicate size.toNat 0
  bufferPos := 0
  channels := channels
  audioNotification := .construct
  sized := by
    rw [List.length_replicate]
    exact size.toNat_lt
  inside := Nat.zero_le _

def residue (self : WasapiAudioInput Sample) : List Sample := self.buffer.take self.bufferPos

def free (self : WasapiAudioInput Sample) : Nat := self.buffer.length - self.bufferPos

-- static_cast<uint32_t>(buffer_.size() - used_size)
def uninitialized (self : WasapiAudioInput Sample) : UInt32 := UInt32.ofNat self.free

-- audio_sample_size * channels_ is a product of 32-bit numbers.
def appended (self : WasapiAudioInput Sample) (packet : Packet Sample) : Nat :=
  (min self.uninitialized (packet.audioSampleSize * self.channels.toUInt32)).toNat

omit [Zero Sample] in
theorem free_lt (self : WasapiAudioInput Sample) : self.free < UInt32.size := by
  have sized := self.sized
  unfold free
  omega

omit [Zero Sample] in
theorem appended_eq (self : WasapiAudioInput Sample) (packet : Packet Sample) :
    self.appended packet =
      min self.free (packet.audioSampleSize.toNat * self.channels.toNat % UInt32.size) := by
  have kept : self.uninitialized.toNat = self.free := UInt32.toNat_ofNat_of_lt self.free_lt
  have product : (packet.audioSampleSize * self.channels.toUInt32).toNat =
      packet.audioSampleSize.toNat * self.channels.toNat % UInt32.size := by
    simp [UInt32.toNat_mul]
  rw [appended, ← kept, ← product]
  change (if self.uninitialized ≤ packet.audioSampleSize * self.channels.toUInt32 then self.uninitialized
    else packet.audioSampleSize * self.channels.toUInt32).toNat = _
  split
  next small => rw [Nat.min_eq_left (UInt32.le_iff_toNat_le.mp small)]
  next big =>
    rw [UInt32.le_iff_toNat_le] at big
    rw [Nat.min_eq_right (by omega)]

omit [Zero Sample] in
theorem appended_fits (self : WasapiAudioInput Sample) (packet : Packet Sample) :
    self.bufferPos + self.appended packet ≤ self.buffer.length := by
  have inside := self.inside
  have bounded := Nat.min_le_left self.free
    (packet.audioSampleSize.toNat * self.channels.toNat % UInt32.size)
  rw [← self.appended_eq] at bounded
  unfold free at bounded
  omega

def append (self : WasapiAudioInput Sample) (packet : Packet Sample) : WasapiAudioInput Sample where
  buffer := overwrite self.buffer self.bufferPos (packet.first (self.appended packet))
  bufferPos := self.bufferPos + self.appended packet
  channels := self.channels
  audioNotification := self.audioNotification
  sized := by
    rw [overwrite_length (by simpa using self.appended_fits packet)]
    exact self.sized
  inside := by
    rw [overwrite_length (by simpa using self.appended_fits packet)]
    exact self.appended_fits packet

theorem append_residue (self : WasapiAudioInput Sample) (packet : Packet Sample) :
    (self.append packet).residue = self.residue ++ packet.first (self.appended packet) := by
  have written := overwrite_take (by simpa using self.appended_fits packet :
    self.bufferPos + (packet.first (self.appended packet)).length ≤ self.buffer.length)
  rw [Packet.first_length] at written
  exact written

-- The loop over GetNextPacketSize; a device that never stops delivering has no replies left.
def capturePackets (self : WasapiAudioInput Sample) :
    List (Turn Sample) → Option (CaptureResult × WasapiAudioInput Sample × List (Event Sample))
  | [] => none
  | turn :: turns =>
      let (status, packetSize) := turn.nextPacketSize
      if SUCCEEDED status ∧ packetSize > 0 then
        let (status, packet) := turn.getBuffer
        if status = S_OK then
          match (self.append packet).capturePackets turns with
          | some (result, final, events) => some (result, final, .captured self.free packet :: events)
          | none => none
        else if status = AUDCLNT_E_DEVICE_INVALIDATED then some (.Reinit, self, [])
        else some (.Error, self, [])
      else if status = AUDCLNT_E_DEVICE_INVALIDATED then some (.Reinit, self, [])
      else if FAILED status then some (.Error, self, [])
      else some (.OK, self, [])

def checked (self : WasapiAudioInput Sample) : WasapiAudioInput Sample :=
  { self with audioNotification := self.audioNotification.checkDefaultDeviceChanged.2 }

def fillBuffer (self : WasapiAudioInput Sample) (wait : DWORD) (turns : List (Turn Sample)) :
    Option (CaptureResult × WasapiAudioInput Sample × List (Event Sample)) :=
  let changed := self.audioNotification.checkDefaultDeviceChanged.1
  let self := self.checked
  if changed then some (.Reinit, self, [.checked true])
  else if wait = WAIT_OBJECT_0 then
    (self.capturePackets turns).map fun (result, final, events) => (result, final, .checked false :: events)
  else if wait = WAIT_TIMEOUT then some (.Timeout, self, [.checked false])
  else some (.Error, self, [.checked false])

def notify (self : WasapiAudioInput Sample) (notification : Notification) : WasapiAudioInput Sample :=
  { self with
    audioNotification := self.audioNotification.onDefaultDeviceChanged notification.flow
      notification.role notification.deviceId }

def notifyAll (self : WasapiAudioInput Sample) (notifications : List Notification) :
    WasapiAudioInput Sample :=
  notifications.foldl notify self

def refill (sampleSize : Nat) : WasapiAudioInput Sample → List (Refill Sample) →
    Option (CaptureResult × WasapiAudioInput Sample × List (Event Sample))
  | self, [] => if self.bufferPos < sampleSize then none else some (.OK, self, [])
  | self, refill_ :: refills =>
      if self.bufferPos < sampleSize then
        match (self.notifyAll refill_.notifications).fillBuffer refill_.wait refill_.turns with
        | some (.OK, next, events) =>
            match refill sampleSize next refills with
            | some (result, final, later) =>
                some (result, final, refill_.notifications.map .notified ++ events ++ later)
            | none => none
        | some (result, next, events) =>
            some (result, next, refill_.notifications.map .notified ++ events)
        | none => none
      else some (.OK, self, [])

omit [Zero Sample] in
theorem shift_fits (self : WasapiAudioInput Sample) (sampleSize : Nat) :
    0 + (self.residue.drop sampleSize).length ≤ self.buffer.length := by
  have inside := self.inside
  simp only [residue, List.length_drop, List.length_take]
  omega

-- std::move of the samples after the request to the front of the buffer
def shift (self : WasapiAudioInput Sample) (sampleSize : Nat) : WasapiAudioInput Sample where
  buffer := overwrite self.buffer 0 (self.residue.drop sampleSize)
  bufferPos := self.bufferPos - sampleSize
  channels := self.channels
  audioNotification := self.audioNotification
  sized := by
    rw [overwrite_length (self.shift_fits sampleSize)]
    exact self.sized
  inside := by
    rw [overwrite_length (self.shift_fits sampleSize)]
    exact Nat.le_trans (Nat.sub_le _ _) self.inside

omit [Zero Sample] in
theorem shift_residue (self : WasapiAudioInput Sample) (sampleSize : Nat) :
    (self.shift sampleSize).residue = self.residue.drop sampleSize := by
  have inside := self.inside
  have moved := overwrite_take (self.shift_fits sampleSize)
  have length : 0 + (self.residue.drop sampleSize).length = self.bufferPos - sampleSize := by
    simp only [residue, List.length_drop, List.length_take]
    omega
  rw [length] at moved
  simpa [shift, residue] using moved

def sample (self : WasapiAudioInput Sample) (request : Request Sample) (refills : List (Refill Sample)) :
    Option (Returned Sample × WasapiAudioInput Sample × List (Event Sample)) :=
  let sampleSize := request.sampleOut.length
  match refill sampleSize self refills with
  | some (.OK, next, events) =>
      let final := next.shift sampleSize
      let sampleOut := overwrite request.sampleOut 0 (next.buffer.take sampleSize)
      some (⟨.OK, request.sampleOut, sampleOut, self.residue, final.residue⟩, final, events)
  | some (result, next, events) =>
      some (⟨result, request.sampleOut, request.sampleOut, self.residue, next.residue⟩, next, events)
  | none => none

structure Tracks (Track : WasapiAudioInput Sample → WasapiAudioInput Sample → List (Event Sample) → Prop) :
    Prop where
  refl : ∀ input, Track input input []
  trans : ∀ {first second third events later}, Track first second events → Track second third later →
    Track first third (events ++ later)
  append : ∀ input packet, Track input (input.append packet) [.captured input.free packet]
  check : ∀ input, Track input input.checked
    [.checked input.audioNotification.checkDefaultDeviceChanged.1]
  notify : ∀ input notification, Track input (input.notify notification) [.notified notification]

section Tracks

variable {Track : WasapiAudioInput Sample → WasapiAudioInput Sample → List (Event Sample) → Prop}
  {input final : WasapiAudioInput Sample} {events : List (Event Sample)} {result : CaptureResult}

theorem Tracks.capturePackets (tracks : Tracks Track) {turns : List (Turn Sample)}
    (ran : input.capturePackets turns = some (result, final, events)) : Track input final events := by
  induction turns generalizing input events with
  | nil => cases ran
  | cons turn turns ih =>
    simp only [WasapiAudioInput.capturePackets] at ran
    split at ran
    next =>
      split at ran
      next =>
        split at ran
        next followed =>
          cases ran
          exact tracks.trans (tracks.append input turn.getBuffer.2) (ih followed)
        next => cases ran
      next => split at ran <;> cases ran <;> exact tracks.refl _
    next =>
      split at ran
      next =>
        cases ran
        exact tracks.refl _
      next => split at ran <;> cases ran <;> exact tracks.refl _

theorem Tracks.fillBuffer (tracks : Tracks Track) {wait : DWORD} {turns : List (Turn Sample)}
    (ran : input.fillBuffer wait turns = some (result, final, events)) : Track input final events := by
  have check := tracks.check input
  simp only [WasapiAudioInput.fillBuffer] at ran
  split at ran
  next changed =>
    rw [changed] at check
    cases ran
    exact check
  next unchanged =>
    rw [Bool.not_eq_true] at unchanged
    rw [unchanged] at check
    split at ran
    next =>
      obtain ⟨⟨_, _, captures⟩, captured, same⟩ := Option.map_eq_some_iff.mp ran
      cases same
      exact tracks.trans check (tracks.capturePackets captured)
    next => split at ran <;> cases ran <;> exact check

theorem Tracks.notifyAll (tracks : Tracks Track) (input : WasapiAudioInput Sample)
    (notifications : List Notification) :
    Track input (input.notifyAll notifications) (notifications.map .notified) := by
  induction notifications generalizing input with
  | nil => exact tracks.refl input
  | cons notification rest ih =>
    exact tracks.trans (tracks.notify input notification) (ih (input.notify notification))

theorem Tracks.refill (tracks : Tracks Track) {sampleSize : Nat} {refills : List (Refill Sample)}
    (ran : refill sampleSize input refills = some (result, final, events)) :
    Track input final events := by
  induction refills generalizing input events with
  | nil =>
    simp only [WasapiAudioInput.refill] at ran
    split at ran
    next => cases ran
    next =>
      cases ran
      exact tracks.refl _
  | cons refill_ refills ih =>
    have notified := tracks.notifyAll input refill_.notifications
    simp only [WasapiAudioInput.refill] at ran
    split at ran
    next =>
      split at ran
      next filled =>
        split at ran
        next followed =>
          cases ran
          exact tracks.trans (tracks.trans notified (tracks.fillBuffer filled)) (ih followed)
        next => cases ran
      next filled =>
        cases ran
        exact tracks.trans notified (tracks.fillBuffer filled)
      next => cases ran
    next =>
      cases ran
      exact tracks.refl _

end Tracks

theorem refill_enough {sampleSize : Nat} {input final : WasapiAudioInput Sample}
    {refills : List (Refill Sample)} {events : List (Event Sample)}
    (ran : refill sampleSize input refills = some (.OK, final, events)) : sampleSize ≤ final.bufferPos := by
  induction refills generalizing input events with
  | nil =>
    simp only [refill] at ran
    split at ran
    next => cases ran
    next enough =>
      cases ran
      exact Nat.le_of_not_lt enough
  | cons refill_ refills ih =>
    simp only [refill] at ran
    split at ran
    next =>
      split at ran
      next =>
        split at ran
        next followed =>
          cases ran
          exact ih followed
        next => cases ran
      next other _ =>
        cases ran
        exact absurd rfl other
      next => cases ran
    next enough =>
      cases ran
      exact Nat.le_of_not_lt enough

theorem sample_cases {input final : WasapiAudioInput Sample} {request : Request Sample}
    {refills : List (Refill Sample)} {call : Returned Sample} {events : List (Event Sample)}
    (ran : input.sample request refills = some (call, final, events)) :
    ∃ result next, refill request.sampleOut.length input refills = some (result, next, events) ∧
      (result = .OK ∧ final = next.shift request.sampleOut.length ∧
          call = ⟨.OK, request.sampleOut,
            overwrite request.sampleOut 0 (next.buffer.take request.sampleOut.length),
            input.residue, final.residue⟩ ∨
        result ≠ .OK ∧ final = next ∧
          call = ⟨result, request.sampleOut, request.sampleOut, input.residue, next.residue⟩) := by
  simp only [sample] at ran
  split at ran
  next filled =>
    cases ran
    exact ⟨_, _, filled, .inl ⟨rfl, rfl, rfl⟩⟩
  next other filled =>
    cases ran
    exact ⟨_, _, filled, .inr ⟨other, rfl, rfl⟩⟩
  next => cases ran

def step (self : WasapiAudioInput Sample) : Action Sample →
    Option (WasapiAudioInput Sample × List (Event Sample))
  | .notify notification => some (self.notify notification, [.notified notification])
  | .sample request refills =>
      match self.sample request refills with
      | some (call, final, events) => some (final, events ++ [.returned call])
      | none => none

end WasapiAudioInput

end Capture

end Pirks.Audio
