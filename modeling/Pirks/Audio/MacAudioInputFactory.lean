import Pirks.Foundation.CStrings
import Pirks.Audio.CaptureDevice
import Pirks.Audio.WasapiCapacity

set_option autoImplicit false

namespace Pirks.Audio

open CString

def AVFoundation.Accepts (foundation : AVFoundation) : Prop :=
  foundation.deviceInput = true ∧ foundation.canAddInput = true ∧ foundation.canAddOutput = true

instance (foundation : AVFoundation) : Decidable foundation.Accepts :=
  inferInstanceAs (Decidable (_ ∧ _ ∧ _))

def Line.Passed (foundation : AVFoundation) : Line → Prop
  | .audioCaptureSession | .audioInput => True
  | .addInput => foundation.deviceInput = true
  | .audioOutput | .addOutput => foundation.deviceInput = true ∧ foundation.canAddInput = true
  | .returned status => status = (if foundation.Accepts then 0 else -1)
  | _ => foundation.Accepts

def Line.connected : Line → Bool
  | .startRunning | .release | .samplesArrivedSignal | .audioSampleBuffer | .returned 0 => true
  | _ => false

def Line.started : Line → Bool
  | .release | .samplesArrivedSignal | .audioSampleBuffer | .returned 0 => true
  | _ => false

def Line.signals : Line → Bool
  | .audioSampleBuffer | .returned 0 => true
  | _ => false

theorem Line.accepts {foundation : AVFoundation} {line : Line} (passed : line.Passed foundation)
    (started : line.started = true) :
    foundation.Accepts := by
  cases line with
  | release | samplesArrivedSignal | audioSampleBuffer => exact passed
  | returned status =>
    by_contra refused
    obtain rfl : status = -1 := passed.trans (if_neg refused)
    cases started
  | _ => cases started

namespace CaptureDevice

/-- The properties of the object follow from the line alone, whatever the callbacks do meanwhile. -/
structure SetUp (foundation : AVFoundation) (channels : UInt8) (device : CaptureDevice) : Prop where
  passed : device.line.Passed foundation
  running : device.running = device.line.started
  audioConnection : device.audioConnection = if device.line.connected then foundation.connection else none
  samplesArrivedSignal : device.samplesArrivedSignal = device.line.signals
  audioSampleBuffer : device.audioSampleBuffer =
    if device.line = .returned 0 then some (kBufferLength * channels.toNat) else none
  quiet : device.running = false → device.callbacks = []

variable {foundation : AVFoundation} {channels : UInt8} {device after : CaptureDevice} {action : Action}

theorem init_setUp : init.SetUp foundation channels where
  passed := trivial
  running := rfl
  audioConnection := rfl
  samplesArrivedSignal := rfl
  audioSampleBuffer := rfl
  quiet := fun _ => rfl

theorem setupCaptureDevice_setUp (setUp : device.SetUp foundation channels)
    (applied : setupCaptureDevice foundation channels device = some after) : after.SetUp foundation channels := by
  obtain ⟨line, running, audioConnection, samplesArrivedSignal, audioSampleBuffer, callbacks⟩ := device
  obtain ⟨passed, runs, connects, signalled, allocated, quiet⟩ := setUp
  cases line with
  | audioCaptureSession =>
    cases applied
    exact ⟨trivial, runs, connects, signalled, allocated, quiet⟩
  | audioInput =>
    cases applied
    cases made : foundation.deviceInput with
    | false => exact ⟨by simp [Line.Passed, AVFoundation.Accepts, made], runs, connects, signalled, allocated, quiet⟩
    | true => exact ⟨made, runs, connects, signalled, allocated, quiet⟩
  | addInput =>
    cases applied
    cases added : foundation.canAddInput with
    | false => exact ⟨by simp [Line.Passed, AVFoundation.Accepts, added], runs, connects, signalled, allocated, quiet⟩
    | true => exact ⟨⟨passed, added⟩, runs, connects, signalled, allocated, quiet⟩
  | audioOutput =>
    cases applied
    exact ⟨passed, runs, connects, signalled, allocated, quiet⟩
  | addOutput =>
    cases applied
    cases added : foundation.canAddOutput with
    | false => exact ⟨by simp [Line.Passed, AVFoundation.Accepts, added], runs, connects, signalled, allocated, quiet⟩
    | true => exact ⟨⟨passed.1, passed.2, added⟩, runs, connects, signalled, allocated, quiet⟩
  | audioConnection =>
    cases applied
    exact ⟨passed, runs, rfl, signalled, allocated, quiet⟩
  | startRunning =>
    cases applied
    exact ⟨passed, rfl, connects, signalled, allocated, by simp⟩
  | release =>
    cases applied
    exact ⟨passed, runs, connects, signalled, allocated, quiet⟩
  | samplesArrivedSignal =>
    cases applied
    exact ⟨passed, runs, connects, rfl, allocated, quiet⟩
  | audioSampleBuffer =>
    cases applied
    exact ⟨(if_pos passed).symm, runs, connects, signalled, rfl, quiet⟩
  | returned status => cases applied

theorem SetUp.callbacks (setUp : device.SetUp foundation channels) {callbacks : List Callback}
    (quiet : device.running = false → callbacks = []) : SetUp foundation channels { device with callbacks } :=
  ⟨setUp.passed, setUp.running, setUp.audioConnection, setUp.samplesArrivedSignal, setUp.audioSampleBuffer, quiet⟩

theorem SetUp.proceed (setUp : device.SetUp foundation channels) (callback : Nat) (progress : Progress) :
    (device.proceed callback progress).SetUp foundation channels :=
  setUp.callbacks fun stopped => by simp [setUp.quiet stopped]

def Performed.Wanted (foundation : AVFoundation) (performed : Performed) : Prop :=
  performed.action = .advance ∨ foundation.Accepts

theorem apply_setUp (setUp : device.SetUp foundation channels)
    (applied : device.apply foundation channels action = some after) :
    after.SetUp foundation channels ∧ Performed.Wanted foundation ⟨action, device, after⟩ := by
  have started (running : device.running = true) : foundation.Accepts :=
    Line.accepts setUp.passed (setUp.running ▸ running)
  have called {callback : Nat} {call : Callback} (here : device.callbacks[callback]? = some call) :
      foundation.Accepts := by
    apply started
    by_contra stopped
    rw [setUp.quiet ((Bool.not_eq_true _).mp stopped)] at here
    cases here
  cases action with
  | advance => exact ⟨setupCaptureDevice_setUp setUp applied, .inl rfl⟩
  | deliver connection =>
    simp only [apply] at applied
    split at applied
    next running =>
      cases applied
      exact ⟨setUp.callbacks (by simp [running]), .inr (started running)⟩
    next => cases applied
  | test callback | produceBytes callback | signal callback =>
    simp only [apply] at applied
    split at applied
    next connection here =>
      cases applied
      exact ⟨setUp.proceed callback _, .inr (called here)⟩
    next => cases applied

theorem run_setUp {actions : List CaptureDevice.Action} {final : CaptureDevice} {log : List Performed}
    (ran : Machine.run (step foundation channels) init actions = some (final, log)) :
    final.SetUp foundation channels ∧ ∀ performed ∈ log, performed.Wanted foundation := by
  refine Machine.run_records (SetUp foundation channels) (Performed.Wanted foundation) ?_
    (fun _ _ => trivial) init_setUp ran
  intro device action next new _ setUp taken
  obtain ⟨applied, rfl⟩ := apply_of_step taken
  obtain ⟨kept, wanted⟩ := apply_setUp setUp applied
  exact ⟨kept, by simpa using wanted⟩

end CaptureDevice

abbrev NSString := List Char

structure AVCaptureDevice where
  localizedName : NSString
  foundation : AVFoundation

structure MacOs where
  isOperatingSystemAtLeastVersion : Bool
  discoverySession : List AVCaptureDevice
  devicesWithMediaType : List AVCaptureDevice

namespace MacOs

def captureDevices (os : MacOs) : List AVCaptureDevice :=
  if os.isOperatingSystemAtLeastVersion then os.discoverySession else os.devicesWithMediaType

def captureDeviceNames (os : MacOs) : List NSString :=
  os.captureDevices.map fun device => device.localizedName

-- The name is nil where the text is no UTF-8; isEqualToString answers NO to nil.
def findCaptureDevice (os : MacOs) (name : Option NSString) : Option Nat :=
  os.captureDevices.findIdx? fun device => some device.localizedName = name

end MacOs

namespace MacAudioInputFactory

open CaptureDevice

-- push_back makes the std::string of a C string.
def getAudioSources (os : MacOs) : List StdString :=
  os.captureDeviceNames.map fun deviceName => upToNul (utf8 deviceName)

def stringWithUTF8String (audioSource : StdString) : Option NSString := ofUtf8 (upToNul audioSource)

structure MacAudioInput where
  captureDevice : Nat
  captureDevice_ : CaptureDevice

-- setupCaptureDevice to its end, between callbacks; the constructor throws unless it returns zero.
def construct (foundation : AVFoundation) (channels : UInt8) (actions : List CaptureDevice.Action) :
    Option (Option CaptureDevice × List Performed) :=
  match Machine.run (step foundation channels) init actions with
  | some (device, log) =>
      match device.line with
      | .returned status => some (if status ≠ 0 then none else some device, log)
      | _ => none
  | none => none

-- None if the actions do not take setupCaptureDevice to its end; the inner option is the pointer.
def create (os : MacOs) (audioSource : StdString) (channels : Int32) (actions : List CaptureDevice.Action) :
    Option (Option MacAudioInput × List Performed) :=
  match os.findCaptureDevice (stringWithUTF8String audioSource) with
  | none => some (none, [])
  | some captureDevice =>
      match os.captureDevices[captureDevice]? with
      | none => none
      | some device =>
          (construct device.foundation channels.toUInt32.toUInt8 actions).map fun (made, log) =>
            (made.map fun captureDevice_ => ⟨captureDevice, captureDevice_⟩, log)

def FirstNamed (os : MacOs) (name : List UInt8) (position : Nat) (device : AVCaptureDevice) : Prop :=
  os.captureDevices[position]? = some device ∧ utf8 device.localizedName = name ∧
    ∀ earlier other, earlier < position → os.captureDevices[earlier]? = some other →
      utf8 other.localizedName ≠ name

structure Ready (foundation : AVFoundation) (channels : Nat) (device : CaptureDevice) : Prop where
  running : device.running = true
  audioConnection : device.audioConnection = foundation.connection
  samplesArrivedSignal : device.samplesArrivedSignal = true
  audioSampleBuffer : device.audioSampleBuffer = some (kBufferLength * channels)

variable {os : MacOs}

theorem findCaptureDevice_iff (audioSource : StdString) (position : Nat) :
    os.findCaptureDevice (stringWithUTF8String audioSource) = some position ↔
      ∃ device, FirstNamed os (upToNul audioSource) position device := by
  have matches_iff (device : AVCaptureDevice) :
      some device.localizedName = stringWithUTF8String audioSource ↔ utf8 device.localizedName = upToNul audioSource :=
    eq_comm.trans ofUtf8_eq_some_iff
  rw [MacOs.findCaptureDevice, List.findIdx?_eq_some_iff_getElem]
  simp only [matches_iff, decide_eq_true_iff]
  constructor
  · rintro ⟨inside, named, first⟩
    refine ⟨_, List.getElem?_eq_getElem inside, named, fun earlier other before found => ?_⟩
    obtain ⟨within, rfl⟩ := List.getElem?_eq_some_iff.mp found
    exact first earlier before
  · rintro ⟨device, found, named, first⟩
    obtain ⟨inside, rfl⟩ := List.getElem?_eq_some_iff.mp found
    exact ⟨inside, named, fun earlier before => first earlier _ before (List.getElem?_eq_getElem _)⟩

theorem construct_setUp {foundation : AVFoundation} {channels : UInt8} {actions : List CaptureDevice.Action}
    {made : Option CaptureDevice} {log : List Performed}
    (constructed : construct foundation channels actions = some (made, log)) :
    (∀ device, made = some device → foundation.Accepts ∧ Ready foundation channels.toNat device) ∧
      (made = none → ¬foundation.Accepts ∧ ∀ performed ∈ log, performed.action = .advance) := by
  unfold construct at constructed
  split at constructed
  next device log ran =>
    obtain ⟨setUp, wanted⟩ := run_setUp ran
    split at constructed
    next status here =>
      have answered := setUp.passed
      simp only [here, Line.Passed] at answered
      cases constructed
      by_cases accepts : foundation.Accepts
      · obtain rfl : status = 0 := answered.trans (if_pos accepts)
        have ready : Ready foundation channels.toNat device := by
          refine ⟨?_, ?_, ?_, ?_⟩
          · rw [setUp.running, here]; rfl
          · rw [setUp.audioConnection, here]; rfl
          · rw [setUp.samplesArrivedSignal, here]; rfl
          · rw [setUp.audioSampleBuffer, if_pos here]
        refine ⟨fun other same => ?_, fun missing => ?_⟩
        · cases same
          exact ⟨accepts, ready⟩
        · cases missing
      · obtain rfl : status = -1 := answered.trans (if_neg accepts)
        refine ⟨fun other same => ?_, fun _ => ⟨accepts, fun performed member => ?_⟩⟩
        · cases same
        · exact (wanted performed member).resolve_right accepts
    next => cases constructed
  next => cases constructed

theorem FirstNamed.unique {name : List UInt8} {position other : Nat} {device another : AVCaptureDevice}
    (first : FirstNamed os name position device) (named : FirstNamed os name other another) :
    position = other ∧ device = another := by
  have same : position = other := by
    rcases Nat.lt_trichotomy position other with before | same | after
    · exact absurd first.2.1 (named.2.2 position device before first.1)
    · exact same
    · exact absurd named.2.1 (first.2.2 other another after named.1)
  subst same
  exact ⟨rfl, Option.some.inj (first.1.symm.trans named.1)⟩

theorem create_opens_iff (os : MacOs) (audioSource : StdString) (channels : Int32) (actions : List CaptureDevice.Action)
    (made : Option MacAudioInput) (log : List Performed)
    (created : create os audioSource channels actions = some (made, log)) :
    (∀ position, (∃ captureDevice_, made = some ⟨position, captureDevice_⟩) ↔
      ∃ device, FirstNamed os (upToNul audioSource) position device ∧ device.foundation.Accepts) ∧
    (∀ position captureDevice_, made = some ⟨position, captureDevice_⟩ → ∃ device, ∃ kept : Nat,
      os.captureDevices[position]? = some device ∧ (kept : Int) = channels.toInt % 256 ∧
        Ready device.foundation kept captureDevice_) ∧
    (made = none → ∀ performed ∈ log, performed.action = .advance) := by
  unfold create at created
  split at created
  next missing =>
    cases created
    refine ⟨fun position => ⟨?_, ?_⟩, ?_, ?_⟩
    · rintro ⟨_, made⟩
      cases made
    · rintro ⟨device, first, -⟩
      have found := (findCaptureDevice_iff audioSource position).mpr ⟨device, first⟩
      rw [missing] at found
      cases found
    · intro _ _ made
      cases made
    · intro _ performed member
      cases member
  next captureDevice found =>
    obtain ⟨device, first⟩ := (findCaptureDevice_iff audioSource captureDevice).mp found
    simp only [first.1] at created
    obtain ⟨⟨constructed, later⟩, ran, same⟩ := Option.map_eq_some_iff.mp created
    cases same
    obtain ⟨succeeded, failed⟩ := construct_setUp ran
    cases constructed with
    | none =>
      obtain ⟨refused, quiet⟩ := failed rfl
      refine ⟨fun position => ⟨?_, ?_⟩, ?_, fun _ => quiet⟩
      · rintro ⟨_, made⟩
        cases made
      · rintro ⟨another, named, accepts⟩
        obtain ⟨-, rfl⟩ := first.unique named
        exact absurd accepts refused
      · intro _ _ made
        cases made
    | some captureDevice_ =>
      obtain ⟨accepts, ready⟩ := succeeded captureDevice_ rfl
      refine ⟨fun position => ⟨?_, ?_⟩, ?_, ?_⟩
      · rintro ⟨_, made⟩
        cases made
        exact ⟨device, first, accepts⟩
      · rintro ⟨another, named, -⟩
        obtain ⟨rfl, -⟩ := first.unique named
        exact ⟨captureDevice_, rfl⟩
      · intro _ _ made
        cases made
        exact ⟨device, channels.toUInt32.toUInt8.toNat, first.1, WasapiObject.narrowed_toInt channels, ready⟩
      · intro missing
        cases missing

-- The name of both microphones, with bytes behind its end, and more channels than fit into a byte.
def twoMicrophones : MacOs where
  isOperatingSystemAtLeastVersion := true
  discoverySession :=
    [⟨['L', 'i', 'n', 'e'], ⟨false, true, true, none⟩⟩, ⟨['M', 'i', 'c'], microphone⟩, ⟨['M', 'i', 'c'], microphone⟩]
  devicesWithMediaType := []

def eagerCallback : List CaptureDevice.Action :=
  List.replicate 7 .advance ++ .deliver 9 :: List.replicate 3 .advance

theorem create_opens_iff_twoMicrophones :
    ∃ captureDevice_ log, create twoMicrophones [77, 105, 99, 0, 33] 258 eagerCallback =
        some (some ⟨1, captureDevice_⟩, log) ∧
      ∃ device, FirstNamed twoMicrophones (upToNul [77, 105, 99, 0, 33]) 1 device ∧ device.foundation.Accepts := by
  obtain ⟨captureDevice_, log, created⟩ : ∃ captureDevice_ log,
      create twoMicrophones [77, 105, 99, 0, 33] 258 eagerCallback = some (some ⟨1, captureDevice_⟩, log) :=
    ⟨_, _, rfl⟩
  have opens := create_opens_iff twoMicrophones [77, 105, 99, 0, 33] 258 eagerCallback _ log created
  exact ⟨captureDevice_, log, created, (opens.1 1).mp ⟨captureDevice_, rfl⟩⟩

def SelectOwn (os : MacOs) : Prop :=
  ∀ position audioSource, (getAudioSources os)[position]? = some audioSource →
    os.findCaptureDevice (stringWithUTF8String audioSource) = some position

theorem upToNul_upToNul (bytes : List UInt8) : upToNul (upToNul bytes) = upToNul bytes := by
  unfold upToNul
  rw [List.takeWhile_takeWhile]
  simp

theorem listed_iff {position : Nat} {audioSource : StdString} :
    (getAudioSources os)[position]? = some audioSource ↔ ∃ device, os.captureDevices[position]? = some device ∧
      audioSource = utf8 (device.localizedName.takeWhile (· ≠ nul)) := by
  simp only [getAudioSources, MacOs.captureDeviceNames, List.map_map, List.getElem?_map, Option.map_eq_some_iff,
    Function.comp_apply, upToNul_utf8]
  simp only [eq_comm]

theorem leads_back_iff {position : Nat} {device : AVCaptureDevice}
    (found : os.captureDevices[position]? = some device) :
    os.findCaptureDevice (stringWithUTF8String (utf8 (device.localizedName.takeWhile (· ≠ nul)))) = some position ↔
      nul ∉ device.localizedName ∧ ∀ (earlier : Nat) (other : AVCaptureDevice), earlier < position →
        os.captureDevices[earlier]? = some other → other.localizedName ≠ device.localizedName := by
  rw [findCaptureDevice_iff, ← upToNul_utf8, upToNul_upToNul, upToNul_utf8]
  constructor
  · rintro ⟨another, there, named, first⟩
    obtain rfl := Option.some.inj (found.symm.trans there)
    have whole := utf8_injective named
    refine ⟨takeWhile_eq_self_iff.mp whole.symm, fun earlier other before listed same => ?_⟩
    exact first earlier other before listed (by rw [same, ← whole])
  · rintro ⟨free, first⟩
    rw [takeWhile_eq_self_iff.mpr free]
    exact ⟨device, found, rfl, fun earlier other before listed same =>
      first earlier other before listed (utf8_injective same)⟩

theorem nodup_iff :
    os.captureDeviceNames.Nodup ↔ ∀ (position : Nat) (device : AVCaptureDevice),
      os.captureDevices[position]? = some device → ∀ (earlier : Nat) (other : AVCaptureDevice), earlier < position →
        os.captureDevices[earlier]? = some other → other.localizedName ≠ device.localizedName := by
  rw [MacOs.captureDeviceNames, List.Nodup, List.pairwise_map, List.pairwise_iff_getElem]
  constructor
  · intro apart position device found earlier other before listed
    obtain ⟨inside, rfl⟩ := List.getElem?_eq_some_iff.mp found
    obtain ⟨within, rfl⟩ := List.getElem?_eq_some_iff.mp listed
    exact apart earlier position within inside before
  · intro apart earlier position within inside before
    exact apart position _ (List.getElem?_eq_getElem inside) earlier _ before (List.getElem?_eq_getElem within)

theorem sources_select_own_iff (os : MacOs) :
    SelectOwn os ↔ os.captureDeviceNames.Nodup ∧ ∀ name ∈ os.captureDeviceNames, nul ∉ name := by
  rw [nodup_iff]
  constructor
  · intro own
    have each (position : Nat) (device : AVCaptureDevice) (found : os.captureDevices[position]? = some device) :=
      (leads_back_iff found).mp (own position _ (listed_iff.mpr ⟨device, found, rfl⟩))
    refine ⟨fun position device found => (each position device found).2, fun name member => ?_⟩
    obtain ⟨device, there, rfl⟩ := List.mem_map.mp member
    obtain ⟨position, found⟩ := List.mem_iff_getElem?.mp there
    exact (each position device found).1
  · rintro ⟨apart, free⟩ position audioSource listed
    obtain ⟨device, found, rfl⟩ := listed_iff.mp listed
    have named : device.localizedName ∈ os.captureDeviceNames := List.mem_map_of_mem (List.mem_of_getElem? found)
    exact (leads_back_iff found).mpr ⟨free _ named, apart position device found⟩

end MacAudioInputFactory

end Pirks.Audio
