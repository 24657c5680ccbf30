import Pirks.Audio.WasapiConstruction
import Pirks.Audio.WasapiStream

set_option autoImplicit false

namespace Pirks.Audio

namespace WasapiAudioInput

variable {Sample : Type} [Zero Sample]

def framesOf : Event Sample → Nat
  | .captured _ packet => packet.audioSampleSize.toNat
  | _ => 0

def burst (events : List (Event Sample)) : Nat := total framesOf events

structure Absorbs (before after : WasapiAudioInput Sample) (events : List (Event Sample)) : Prop where
  channels_eq : after.channels = before.channels
  length_eq : after.buffer.length = before.buffer.length
  kept : before.bufferPos + burst events * before.channels.toNat ≤ before.buffer.length →
    after.bufferPos = before.bufferPos + burst events * before.channels.toNat ∧
      after.residue = before.residue ++ events.flatMap (whole before.channels)

omit [Zero Sample] in
theorem burst_append (events later : List (Event Sample)) :
    burst (events ++ later) = burst events + burst later := total_append framesOf events later

variable {input next final : WasapiAudioInput Sample} {events later : List (Event Sample)}

theorem Absorbs.trans (first : Absorbs input next events) (second : Absorbs next final later) :
    Absorbs input final (events ++ later) where
  channels_eq := second.channels_eq.trans first.channels_eq
  length_eq := second.length_eq.trans first.length_eq
  kept := by
    rw [burst_append, Nat.add_mul]
    intro fits
    obtain ⟨position, residue⟩ := first.kept (by omega)
    have rest := second.kept
    rw [first.channels_eq, first.length_eq, position] at rest
    obtain ⟨reached, final_⟩ := rest (by omega)
    refine ⟨by omega, ?_⟩
    rw [final_, residue, List.append_assoc, List.flatMap_append]

theorem append_absorbs (input : WasapiAudioInput Sample) (packet : Packet Sample) :
    Absorbs input (input.append packet) [.captured input.free packet] where
  channels_eq := rfl
  length_eq := overwrite_length (by simpa using input.appended_fits packet)
  kept := by
    intro fits
    have delivered : burst [Event.captured input.free packet] = packet.audioSampleSize.toNat := by
      simp [burst, total, framesOf]
    rw [delivered] at fits ⊢
    have room : packet.audioSampleSize.toNat * input.channels.toNat ≤ input.free := by
      unfold free
      omega
    have counted : input.appended packet = packet.audioSampleSize.toNat * input.channels.toNat := by
      rw [appended_eq, Nat.mod_eq_of_lt (Nat.lt_of_le_of_lt room input.free_lt), Nat.min_eq_right room]
    refine ⟨congrArg (input.bufferPos + ·) counted, ?_⟩
    rw [append_residue, counted]
    simp [whole, contents]

theorem absorbs_tracks : Tracks (@Absorbs Sample _) where
  refl := fun _ => ⟨rfl, rfl, fun _ => by simp [burst, total]⟩
  trans := .trans
  append := append_absorbs
  check := fun input => ⟨rfl, rfl, fun _ => by simp [burst, total, framesOf, whole, residue, checked]⟩
  notify := fun input _ => ⟨rfl, rfl, fun _ => by simp [burst, total, framesOf, whole, residue, notify]⟩

omit [Zero Sample] in
theorem max_toNat (first second : UInt32) : (max first second).toNat = max first.toNat second.toNat := by
  change (if first ≤ second then second else first).toNat = _
  split
  next small => rw [Nat.max_eq_right (UInt32.le_iff_toNat_le.mp small)]
  next big =>
    rw [UInt32.le_iff_toNat_le] at big
    rw [Nat.max_eq_left (by omega)]

omit [Zero Sample] in
theorem bufferSize_toNat (frames frameSize : UInt32) (channels : UInt8) :
    (bufferSize frames frameSize channels).toNat =
      2 * channels.toNat * max frames.toNat frameSize.toNat % UInt32.size := by
  have product : max frames.toNat frameSize.toNat * 2 * channels.toNat =
      2 * channels.toNat * max frames.toNat frameSize.toNat := by
    rw [Nat.mul_comm, ← Nat.mul_assoc, Nat.mul_right_comm, Nat.mul_comm channels.toNat]
  rw [← product]
  simp [bufferSize, UInt32.toNat_mul, max_toNat]

end WasapiAudioInput

namespace WasapiObject

open WasapiAudioInput

def CapturesChannels (object : WasapiObject) (channels : Int32) : Prop :=
  (object.channels.toNat : Int) = channels.toInt ∧
    ∃ format, object.audioClient = some format ∧ (format.channelCount.toNat : Int) = channels.toInt

def HoldsTwice (object : WasapiObject) (channels : Int32) (frames frameSize : UInt32) : Prop :=
  ∃ size, object.bufferSize = some size ∧
    2 * channels.toInt * (max frames.toNat frameSize.toNat : Nat) ≤ size.toNat

-- buffer_ was resized by the constructor.
def Owns {Sample : Type} (object : WasapiObject) (input : WasapiAudioInput Sample) : Prop :=
  input.channels = object.channels ∧
    ∃ size, object.bufferSize = some size ∧ input.buffer.length = size.toNat

def KeepsBursts (Sample : Type) [Zero Sample] (object : WasapiObject) (frames : UInt32) : Prop :=
  ∀ (input final : WasapiAudioInput Sample) (wait : DWORD) (turns : List (Turn Sample))
      (result : CaptureResult) (events : List (Event Sample)),
    Owns object input → input.bufferPos = 0 → input.fillBuffer wait turns = some (result, final, events) →
    burst events ≤ 2 * frames.toNat → final.residue = events.flatMap (whole object.channels)

theorem narrowed_toInt (channels : Int32) : (channels.toUInt32.toUInt8.toNat : Int) = channels.toInt % 256 := by
  have signed : channels.toInt = channels.toBitVec.toInt := rfl
  have unsigned : channels.toUInt32.toNat = channels.toBitVec.toNat := rfl
  have bounded := channels.toBitVec.isLt
  rw [signed, BitVec.toInt_eq_toNat_cond, UInt32.toNat_toUInt8, unsigned]
  split <;> omega

theorem keepsBursts_of_holdsTwice {Sample : Type} [Zero Sample] {object : WasapiObject} {channels : Int32}
    {frames frameSize : UInt32} (captures : CapturesChannels object channels)
    (holds : HoldsTwice object channels frames frameSize) : KeepsBursts Sample object frames := by
  intro input final wait turns result events owns empty ran short
  obtain ⟨same, size, sized, length⟩ := owns
  obtain ⟨_, other, enough⟩ := holds
  cases sized.symm.trans other
  rw [← captures.1] at enough
  have absorbs := absorbs_tracks.fillBuffer ran
  have room : 2 * object.channels.toNat * max frames.toNat frameSize.toNat ≤ size.toNat := by
    exact_mod_cast enough
  have fits : input.bufferPos + burst events * input.channels.toNat ≤ input.buffer.length := by
    rw [empty, Nat.zero_add, length, same]
    calc burst events * object.channels.toNat
        ≤ 2 * frames.toNat * object.channels.toNat := Nat.mul_le_mul_right _ short
      _ = 2 * object.channels.toNat * frames.toNat := Nat.mul_right_comm _ _ _
      _ ≤ 2 * object.channels.toNat * max frames.toNat frameSize.toNat :=
          Nat.mul_le_mul_left _ (Nat.le_max_left _ _)
      _ ≤ size.toNat := room
  have kept := (absorbs.kept fits).2
  simpa [residue, empty, same] using kept

theorem create_honours_iff (Sample : Type) [Zero Sample] (os : Os) (formats : List AudioFormat)
    (audioSource : StdString) (channels : Int32) (frameSize : UInt32) (object : WasapiObject)
    (made : create os formats audioSource channels frameSize = some object) :
    (CapturesChannels object channels ∧ HoldsTwice object channels os.getBufferSize.2 frameSize ∧
        KeepsBursts Sample object os.getBufferSize.2) ↔
      0 ≤ channels.toInt ∧ channels.toInt < 256 ∧
        2 * channels.toInt * (max os.getBufferSize.2.toNat frameSize.toNat : Nat) < UInt32.size := by
  obtain ⟨device, missing, chosen⟩ := chosenConstructor_eq os formats audioSource frameSize
  rw [create_eq_completes, chosen, completes_iff] at made
  obtain ⟨_, _, _, _, _, format, _, accepts, rfl⟩ := constructFor_completed made.2
  have narrowed := narrowed_toInt channels
  have size := bufferSize_toNat os.getBufferSize.2 frameSize channels.toUInt32.toUInt8
  have captures_iff : CapturesChannels (completed os channels.toUInt32.toUInt8 frameSize device format)
      channels ↔ 0 ≤ channels.toInt ∧ channels.toInt < 256 := by
    simp only [CapturesChannels, completed, accepts.1, narrowed, Option.some.injEq, exists_eq_left', and_self]
    omega
  have holds_iff (same : (channels.toUInt32.toUInt8.toNat : Int) = channels.toInt) :
      HoldsTwice (completed os channels.toUInt32.toUInt8 frameSize device format) channels
          os.getBufferSize.2 frameSize ↔
        2 * channels.toInt * (max os.getBufferSize.2.toNat frameSize.toNat : Nat) < UInt32.size := by
    simp only [HoldsTwice, completed, Option.some.injEq, exists_eq_left', size, ← same]
    norm_cast
    generalize 2 * channels.toUInt32.toUInt8.toNat * max os.getBufferSize.2.toNat frameSize.toNat = product
    constructor
    · intro enough
      exact Nat.lt_of_le_of_lt enough (Nat.mod_lt product (by decide))
    · intro small
      exact Nat.le_of_eq (Nat.mod_eq_of_lt small).symm
  constructor
  · intro ⟨captures, holds, _⟩
    obtain ⟨positive, small⟩ := captures_iff.mp captures
    exact ⟨positive, small, (holds_iff captures.1).mp holds⟩
  · intro ⟨positive, small, fits⟩
    have captures := captures_iff.mpr ⟨positive, small⟩
    have holds := (holds_iff captures.1).mpr fits
    exact ⟨captures, holds, keepsBursts_of_holdsTwice captures holds⟩

theorem create_honours_iff_stereo :
    (CapturesChannels (completed withDevice 2 480 (some 0) ⟨2, "Stereo"⟩) 2 ∧
        HoldsTwice (completed withDevice 2 480 (some 0) ⟨2, "Stereo"⟩) 2 1056 480 ∧
        KeepsBursts Float32 (completed withDevice 2 480 (some 0) ⟨2, "Stereo"⟩) 1056) ↔
      (0 : Int) ≤ 2 ∧ (2 : Int) < 256 ∧ 2 * (2 : Int) * (max 1056 480 : Nat) < UInt32.size :=
  have made : create withDevice [⟨2, "Stereo"⟩] [] 2 480 =
      some (completed withDevice 2 480 (some 0) ⟨2, "Stereo"⟩) := rfl
  create_honours_iff Float32 withDevice [⟨2, "Stereo"⟩] [] 2 480 _ made

-- 258 channels are taken for 2.
theorem create_narrows_channels :
    ¬∀ (os : Os) (formats : List AudioFormat) (audioSource : StdString) (channels : Int32)
        (frameSize : UInt32) (object : WasapiObject),
      create os formats audioSource channels frameSize = some object →
      CapturesChannels object channels ∧ HoldsTwice object channels os.getBufferSize.2 frameSize ∧
        KeepsBursts Float32 object os.getBufferSize.2 := by
  intro always
  have made : create withDevice [⟨2, "Stereo"⟩] [] 258 480 =
      some (completed withDevice 2 480 (some 0) ⟨2, "Stereo"⟩) := rfl
  have captures := (always withDevice [⟨2, "Stereo"⟩] [] 258 480 _ made).1
  exact absurd captures.1 (by decide)

end WasapiObject

end Pirks.Audio
