import Pirks.Audio.WasapiRegistration

set_option autoImplicit false

namespace Pirks.Audio.WasapiObject

open Execution PlatformWindows

def completes (os : Os) (channels : UInt8) (body : Construct Unit) : Option WasapiObject :=
  if FAILED os.coCreateInstance then none
  else
    match perform body (initial channels) with
    | (.ok _, self) => some self
    | (.error _, _) => none

theorem create_eq_completes (os : Os) (formats : List AudioFormat) (audioSource : StdString)
    (channels : Int32) (frameSize : UInt32) :
    create os formats audioSource channels frameSize =
      completes os channels.toUInt32.toUInt8 (chosenConstructor os formats audioSource frameSize) := rfl

theorem completes_iff {os : Os} {channels : UInt8} {body : Construct Unit} {object : WasapiObject} :
    completes os channels body = some object ↔
      FAILED os.coCreateInstance = false ∧ perform body (initial channels) = (.ok (), object) := by
  unfold completes
  cases created : FAILED os.coCreateInstance with
  | true => simp
  | false => rcases perform body (initial channels) with ⟨_ | _, _⟩ <;> simp

-- defaultLatency_ = static_cast<DWORD>(default_latency / 1000)
def latency (os : Os) : DWORD := (os.getDevicePeriod.2 / 1000).toUInt64.toUInt32

def completed (os : Os) (channels : UInt8) (frameSize : UInt32) (device : Option Nat) (format : AudioFormat) :
    WasapiObject where
  audioEvent := ⟨os.createEvent⟩
  device := device
  audioClient := some format
  defaultLatency := some (latency os)
  bufferSize := some (WasapiAudioInput.bufferSize os.getBufferSize.2 frameSize channels)
  channels := channels
  mmcssTaskHandle := ⟨os.avSetMmThreadCharacteristics⟩
  effects := .registered :: started os.avSetMmThreadCharacteristics

theorem prepareBuffer_ok {os : Os} {frameSize : UInt32} {object after : WasapiObject}
    (ran : perform (prepareBuffer os frameSize) object = (.ok (), after)) :
    Allocates os object.channels frameSize ∧ after = { object with
      defaultLatency := some (latency os)
      bufferSize := some (WasapiAudioInput.bufferSize os.getBufferSize.2 frameSize object.channels) } := by
  unfold Allocates
  cases sized : FAILED os.getBufferSize.1 <;>
    cases allocated : os.allocates (WasapiAudioInput.bufferSize os.getBufferSize.2 frameSize object.channels) <;>
    simp [prepareBuffer, perform_bind, sized, allocated] at ran
  exact ⟨⟨rfl, rfl⟩, ran.symm⟩

theorem registerNotifications_ok {os : Os} {object after : WasapiObject}
    (fresh : object.audioEvent = .default WinHandle)
    (ran : perform (registerNotifications os) object = (.ok (), after)) :
    Listens os ∧ after = { object with
      audioEvent := ⟨os.createEvent⟩
      effects := object.effects ++ [.registered] } := by
  obtain ⟨listens, same⟩ | ⟨_, error, thrown⟩ := registerNotifications_cases os fresh
  · rw [same] at ran
    cases ran
    exact ⟨listens, rfl⟩
  · rw [thrown] at ran
    cases ran

theorem openClient_ok {os : Os} {formats : List AudioFormat} {device : Option Nat} {missing : StdString}
    {object after : WasapiObject} (fresh : object.audioClient = none)
    (ran : perform (openClient os formats device missing) object = (.ok (), after)) :
    device.isSome ∧ ∃ position format, formats[position]? = some format ∧
      Accepts os object.channels position format ∧
      after = { object with device, audioClient := some format } := by
  obtain ⟨present, position, format, found, accepts, same⟩ | ⟨_, error, thrown⟩ :=
    openClient_cases os formats device missing fresh
  · rw [same] at ran
    cases ran
    exact ⟨present, position, format, found, accepts, rfl⟩
  · rw [thrown] at ran
    cases ran

theorem startCapture_ok {os : Os} {object after : WasapiObject}
    (fresh : object.mmcssTaskHandle = .default WinHandle)
    (ran : perform (startCapture os) object = (.ok (), after)) :
    Captures os ∧ after = { object with
      mmcssTaskHandle := ⟨os.avSetMmThreadCharacteristics⟩
      effects := object.effects ++ started os.avSetMmThreadCharacteristics } := by
  obtain ⟨captures, same⟩ | ⟨_, error, _, _, thrown, _⟩ := startCapture_cases os fresh
  · rw [same] at ran
    cases ran
    exact ⟨captures, rfl⟩
  · rw [thrown] at ran
    cases ran

theorem constructFor_completed {os : Os} {formats : List AudioFormat} {channels : UInt8}
    {frameSize : UInt32} {device : Option Nat} {missing : StdString} {object : WasapiObject}
    (ran : perform (constructFor os formats frameSize device missing) (initial channels) = (.ok (), object)) :
    Listens os ∧ device.isSome ∧ Allocates os channels frameSize ∧ Captures os ∧
      ∃ position format, formats[position]? = some format ∧ Accepts os channels position format ∧
        object = completed os channels frameSize device format := by
  obtain ⟨_, registered, listening, ran⟩ := perform_bind_ok ran
  obtain ⟨listens, listened⟩ := registerNotifications_ok rfl listening
  obtain ⟨_, opened, opening, ran⟩ := perform_bind_ok ran
  have unopened : registered.audioClient = none := by rw [listened]; rfl
  have kept : registered.channels = channels := by rw [listened]; rfl
  obtain ⟨present, position, format, found, accepts, opens⟩ := openClient_ok unopened opening
  rw [kept] at accepts
  obtain ⟨_, prepared, preparing, ran⟩ := perform_bind_ok ran
  obtain ⟨allocates, prepares⟩ := prepareBuffer_ok preparing
  have same : opened.channels = channels := by rw [opens, ← kept]
  rw [same] at allocates prepares
  have untasked : prepared.mmcssTaskHandle = .default WinHandle := by rw [prepares, opens, listened]; rfl
  obtain ⟨captures, starts⟩ := startCapture_ok untasked ran
  refine ⟨listens, present, allocates, captures, position, format, found, accepts, ?_⟩
  rw [starts, prepares, opens, listened]
  rfl

theorem constructFor_completes_iff (os : Os) (formats : List AudioFormat) (channels : UInt8)
    (frameSize : UInt32) (device : Option Nat) (missing : StdString) :
    (∃ object, completes os channels (constructFor os formats frameSize device missing) = some object) ↔
      Registers os ∧ Proceeds os formats channels frameSize device := by
  simp only [completes_iff]
  constructor
  · intro ⟨object, created, ran⟩
    obtain ⟨listens, present, allocates, captures, position, format, found, accepts, _⟩ :=
      constructFor_completed ran
    exact ⟨⟨created, listens⟩, ⟨present, position, format, found, accepts⟩, allocates, captures⟩
  · intro ⟨⟨created, listens⟩, proceeds⟩
    obtain ⟨_, object, ran, _⟩ | ⟨stops, _⟩ :=
      constructFor_registered os formats channels frameSize device missing listens
    · exact ⟨object, created, ran⟩
    · exact absurd proceeds stops

def withDevice : Os := { withoutDevice with getDefaultAudioEndpoint := fun _ _ => (S_OK, some 0) }

section Device

theorem ensure_frames (holds : Bool) (error : Exception) : Frames device (ensure holds error) := by
  intro object
  cases holds <;> rfl

theorem ensureSucceeded_frames (status : HRESULT) (what : String) :
    Frames device (ensureSucceeded status what) := ensure_frames _ _

theorem assignMmcssTaskHandle_frames (handle : HANDLE) : Frames device (assignMmcssTaskHandle handle) := by
  intro object
  simp [assignMmcssTaskHandle, perform_bind]

theorem prepareBuffer_frames (os : Os) (frameSize : UInt32) : Frames device (prepareBuffer os frameSize) := by
  apply Frames.bind (fun _ => rfl)
  intro _
  apply Frames.bind (ensureSucceeded_frames _ _)
  intro _
  apply Frames.bind (fun _ => rfl)
  intro object
  apply Frames.bind (ensure_frames _ _)
  exact fun _ _ => rfl

theorem startCapture_frames (os : Os) : Frames device (startCapture os) := by
  apply Frames.bind (ensureSucceeded_frames _ _)
  intro _
  apply Frames.bind (ensureSucceeded_frames _ _)
  intro _
  apply Frames.bind (fun _ => rfl)
  intro _
  apply Frames.bind (assignMmcssTaskHandle_frames _)
  intro _
  apply Frames.bind (fun _ => rfl)
  intro object
  apply Frames.bind (ensure_frames _ _)
  intro _
  exact ensureSucceeded_frames _ _

theorem constructFor_device (os : Os) (formats : List AudioFormat) (channels : UInt8) (frameSize : UInt32)
    (device : Option Nat) (missing : StdString) (listens : Listens os) :
    (perform (constructFor os formats frameSize device missing) (initial channels)).2.device = device := by
  have kept : Frames WasapiObject.device (do prepareBuffer os frameSize; startCapture os) :=
    (prepareBuffer_frames os frameSize).bind fun _ => startCapture_frames os
  obtain ⟨_, registered⟩ | ⟨silent, _⟩ := registerNotifications_cases os
    (rfl : (initial channels).audioEvent = .default WinHandle)
  case inr => exact absurd listens silent
  unfold constructFor
  rw [perform_bind, registered]
  obtain ⟨_, _, _, _, _, opened⟩ | ⟨_, error, thrown⟩ := openClient_cases os formats device missing
    (rfl : ({ initial channels with
      audioEvent := ⟨os.createEvent⟩
      effects := (initial channels).effects ++ [.registered] } : WasapiObject).audioClient = none)
  · dsimp only
    rw [perform_bind, opened]
    exact kept _
  · dsimp only
    rw [perform_bind, thrown]

end Device

end Pirks.Audio.WasapiObject
