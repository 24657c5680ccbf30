import Pirks.Audio.WasapiConstruction

set_option autoImplicit false

namespace Pirks.Audio.WasapiObject

open Execution PlatformWindows

/-- Every call that the construction of the object depends on succeeded, and the object holds what the
calls delivered. CreateEventA and AvSetMmThreadCharacteristics report a failure by NULL. -/
structure Initialised (os : Os) (formats : List AudioFormat) (channels : UInt8) (device : Option Nat)
    (object : WasapiObject) : Prop where
  enumerator : FAILED os.coCreateInstance = false
  event : os.createEvent ≠ nullptr
  audioEvent : object.audioEvent.handle = os.createEvent
  registered : FAILED os.registerEndpointNotificationCallback = false
  found : device.isSome
  opened : object.device = device
  client : ∃ position format, formats[position]? = some format ∧ Accepts os channels position format ∧
    object.audioClient = some format
  period : FAILED os.getDevicePeriod.1 = false
  defaultLatency : object.defaultLatency = some (latency os)
  frames : FAILED os.getBufferSize.1 = false
  service : FAILED os.getService = false
  handed : FAILED os.setEventHandle = false
  task : os.avSetMmThreadCharacteristics ≠ nullptr
  mmcssTaskHandle : object.mmcssTaskHandle.handle = os.avSetMmThreadCharacteristics
  begun : FAILED os.start = false

def Delivers (os : Os) : Prop :=
  os.createEvent ≠ nullptr ∧ os.avSetMmThreadCharacteristics ≠ nullptr ∧ FAILED os.getDevicePeriod.1 = false

theorem completed_initialised {os : Os} {formats : List AudioFormat} {channels : UInt8} {frameSize : UInt32}
    {device : Option Nat} {missing : StdString} {object : WasapiObject} (delivers : Delivers os)
    (made : completes os channels (constructFor os formats frameSize device missing) = some object) :
    Initialised os formats channels device object := by
  obtain ⟨created, ran⟩ := completes_iff.mp made
  obtain ⟨listens, present, allocates, captures, position, format, found, accepts, rfl⟩ :=
    constructFor_completed ran
  exact {
    enumerator := created
    event := delivers.1
    audioEvent := rfl
    registered := listens.2
    found := present
    opened := rfl
    client := ⟨position, format, found, accepts, rfl⟩
    period := delivers.2.2
    defaultLatency := rfl
    frames := allocates.1
    service := captures.1
    handed := captures.2.1
    task := delivers.2.1
    mmcssTaskHandle := rfl
    begun := captures.2.2.2 }

theorem constructFor_initialised_iff (os : Os) (formats : List AudioFormat) (channels : UInt8)
    (frameSize : UInt32) (device : Option Nat) (missing : StdString) :
    (∀ object, completes os channels (constructFor os formats frameSize device missing) = some object →
        Initialised os formats channels device object) ↔
      (Registers os ∧ Proceeds os formats channels frameSize device → Delivers os) := by
  constructor
  · intro initialised proceeds
    obtain ⟨object, made⟩ :=
      (constructFor_completes_iff os formats channels frameSize device missing).mpr proceeds
    have facts := initialised object made
    exact ⟨facts.event, facts.task, facts.period⟩
  · intro delivers object made
    have proceeds := (constructFor_completes_iff os formats channels frameSize device missing).mp
      ⟨object, made⟩
    exact completed_initialised (delivers proceeds) made

theorem constructed_initialised_iff (os : Os) (formats : List AudioFormat) (channels : UInt8)
    (frameSize : UInt32) (audioSource : StdString) :
    ((∀ object, completes os channels (construct os formats frameSize) = some object →
        Initialised os formats channels (DeviceEnumeratorPtr.getDefaultDevice os.getDefaultAudioEndpoint)
          object) ↔
      (Registers os ∧ Proceeds os formats channels frameSize
        (DeviceEnumeratorPtr.getDefaultDevice os.getDefaultAudioEndpoint) → Delivers os)) ∧
    ((∀ object, completes os channels (constructNamed os formats frameSize audioSource) = some object →
        Initialised os formats channels (selectDeviceByName os audioSource) object) ↔
      (Registers os ∧ Proceeds os formats channels frameSize (selectDeviceByName os audioSource) →
        Delivers os)) :=
  ⟨constructFor_initialised_iff os formats channels frameSize _ _,
    constructFor_initialised_iff os formats channels frameSize _ _⟩

def withoutTask : Os :=
  { withDevice with
    avSetMmThreadCharacteristics := nullptr
    getLastError := 1552 }

theorem constructed_without_task :
    ¬∀ (os : Os) (formats : List AudioFormat) (channels : UInt8) (frameSize : UInt32)
        (audioSource : StdString),
      (∀ object, completes os channels (construct os formats frameSize) = some object →
        Initialised os formats channels (DeviceEnumeratorPtr.getDefaultDevice os.getDefaultAudioEndpoint)
          object) ∧
      ∀ object, completes os channels (constructNamed os formats frameSize audioSource) = some object →
        Initialised os formats channels (selectDeviceByName os audioSource) object := by
  intro always
  have made : completes withoutTask 2 (construct withoutTask [⟨2, "Stereo"⟩] 480) =
      some (completed withoutTask 2 480 (some 0) ⟨2, "Stereo"⟩) := rfl
  have initialised := (always withoutTask [⟨2, "Stereo"⟩] 2 480 []).1 _ made
  exact initialised.task rfl

end Pirks.Audio.WasapiObject
