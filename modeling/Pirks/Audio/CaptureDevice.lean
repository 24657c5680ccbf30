import Mathlib.Data.List.Basic
import Pirks.Foundation.Machine

set_option autoImplicit false

namespace Pirks.Audio

/-- What AVFoundation replies to `setupCaptureDevice`; false is nil or NO. -/
structure AVFoundation where
  deviceInput : Bool
  canAddInput : Bool
  canAddOutput : Bool
  connection : Option Nat

inductive Line where
  | audioCaptureSession
  | audioInput
  | addInput
  | audioOutput
  | addOutput
  | audioConnection
  | startRunning
  | release
  | samplesArrivedSignal
  | audioSampleBuffer
  | returned (status : Int)
  deriving DecidableEq

inductive Progress where
  | delivered
  | accepted
  | produced
  | finished
  deriving DecidableEq

structure Callback where
  connection : Nat
  progress : Progress
  deriving DecidableEq

structure CaptureDevice where
  line : Line
  running : Bool
  audioConnection : Option Nat
  -- the NSCondition was created
  samplesArrivedSignal : Bool
  audioSampleBuffer : Option Nat
  -- the recording queue is concurrent: any number of callbacks at a time
  callbacks : List Callback

namespace CaptureDevice

def kBufferLength : Nat := 4096

def init : CaptureDevice where
  line := .audioCaptureSession
  running := false
  audioConnection := none
  samplesArrivedSignal := false
  audioSampleBuffer := none
  callbacks := []

inductive Action where
  | advance
  | deliver (connection : Nat)
  | test (callback : Nat)
  | produceBytes (callback : Nat)
  | signal (callback : Nat)
  deriving DecidableEq

def setupCaptureDevice (foundation : AVFoundation) (channels : UInt8) (self : CaptureDevice) :
    Option CaptureDevice :=
  match self.line with
  | .audioCaptureSession => some { self with line := .audioInput }
  | .audioInput => some { self with line := if foundation.deviceInput then .addInput else .returned (-1) }
  | .addInput => some { self with line := if foundation.canAddInput then .audioOutput else .returned (-1) }
  | .audioOutput => some { self with line := .addOutput }
  | .addOutput =>
      some { self with line := if foundation.canAddOutput then .audioConnection else .returned (-1) }
  | .audioConnection =>
      some { self with line := .startRunning, audioConnection := foundation.connection }
  | .startRunning => some { self with line := .release, running := true }
  | .release => some { self with line := .samplesArrivedSignal }
  | .samplesArrivedSignal => some { self with line := .audioSampleBuffer, samplesArrivedSignal := true }
  | .audioSampleBuffer =>
      some { self with line := .returned 0, audioSampleBuffer := some (kBufferLength * channels.toNat) }
  | .returned _ => none

def proceed (self : CaptureDevice) (callback : Nat) (progress : Progress) : CaptureDevice :=
  { self with callbacks := self.callbacks.modify callback fun call => { call with progress } }

def apply (foundation : AVFoundation) (channels : UInt8) (self : CaptureDevice) :
    Action → Option CaptureDevice
  | .advance => setupCaptureDevice foundation channels self
  | .deliver connection =>
      if self.running then some { self with callbacks := self.callbacks ++ [⟨connection, .delivered⟩] }
      else none
  | .test callback =>
      match self.callbacks[callback]? with
      | some ⟨connection, .delivered⟩ =>
          some (self.proceed callback (if some connection = self.audioConnection then .accepted else .finished))
      | _ => none
  | .produceBytes callback =>
      match self.callbacks[callback]? with
      | some ⟨_, .accepted⟩ => some (self.proceed callback .produced)
      | _ => none
  | .signal callback =>
      match self.callbacks[callback]? with
      | some ⟨_, .produced⟩ => some (self.proceed callback .finished)
      | _ => none

structure Performed where
  action : Action
  before : CaptureDevice
  after : CaptureDevice

def step (foundation : AVFoundation) (channels : UInt8) (self : CaptureDevice) (action : Action) :
    Option (CaptureDevice × List Performed) :=
  (self.apply foundation channels action).map fun after => (after, [⟨action, self, after⟩])

def Performed.Initialised (performed : Performed) : Prop :=
  (∀ callback, performed.action = .produceBytes callback → performed.before.audioSampleBuffer.isSome) ∧
    ∀ callback, performed.action = .signal callback → performed.before.samplesArrivedSignal = true

def Performed.Late (performed : Performed) : Prop :=
  ∀ callback connection, performed.action = .test callback →
    performed.before.callbacks[callback]? = some ⟨connection, .delivered⟩ →
    some connection = performed.before.audioConnection → performed.before.audioSampleBuffer.isSome

def Performed.Early (performed : Performed) : Prop :=
  ∃ connection, performed.action = .deliver connection ∧
    some connection = performed.before.audioConnection ∧ performed.before.audioSampleBuffer = none

structure Ordered (device : CaptureDevice) : Prop where
  signalled : device.line = .audioSampleBuffer → device.samplesArrivedSignal = true
  created : device.audioSampleBuffer.isSome → device.samplesArrivedSignal = true
  initialised : ∀ callback ∈ device.callbacks,
    callback.progress = .accepted ∨ callback.progress = .produced → device.audioSampleBuffer.isSome

variable {foundation : AVFoundation} {channels : UInt8} {device after : CaptureDevice} {action : Action}

theorem init_ordered : init.Ordered where
  signalled := fun line => by cases line
  created := fun initialised => by cases initialised
  initialised := fun _ member => by cases member

theorem setupCaptureDevice_ordered (ordered : device.Ordered)
    (applied : setupCaptureDevice foundation channels device = some after) : after.Ordered := by
  cases here : device.line with
  | audioCaptureSession | audioOutput | audioConnection | startRunning | release =>
    simp only [setupCaptureDevice, here] at applied
    cases applied
    exact ⟨by simp, ordered.created, ordered.initialised⟩
  | audioInput | addInput | addOutput =>
    simp only [setupCaptureDevice, here] at applied
    cases applied
    exact ⟨by split <;> simp, ordered.created, ordered.initialised⟩
  | samplesArrivedSignal =>
    simp only [setupCaptureDevice, here] at applied
    cases applied
    exact ⟨by simp, by simp, ordered.initialised⟩
  | audioSampleBuffer =>
    simp only [setupCaptureDevice, here] at applied
    cases applied
    exact ⟨by simp, fun _ => ordered.signalled here, by simp⟩
  | returned status => simp [setupCaptureDevice, here] at applied

theorem Ordered.proceed (ordered : device.Ordered) {callback : Nat} {call : Callback} {progress : Progress}
    (here : device.callbacks[callback]? = some call)
    (allowed : progress ≠ .finished → device.audioSampleBuffer.isSome) :
    (device.proceed callback progress).Ordered where
  signalled := ordered.signalled
  created := ordered.created
  initialised := by
    intro other member touches
    obtain ⟨index, found⟩ := List.mem_iff_getElem?.mp member
    simp only [CaptureDevice.proceed, List.getElem?_modify] at found
    split at found
    next same =>
      subst same
      rw [here] at found
      cases found
      apply allowed
      rintro rfl
      simp at touches
    next => exact ordered.initialised other (List.mem_of_getElem? (by simpa using found)) touches

theorem Ordered.deliver (ordered : device.Ordered) (connection : Nat) :
    Ordered { device with callbacks := device.callbacks ++ [⟨connection, .delivered⟩] } where
  signalled := ordered.signalled
  created := ordered.created
  initialised := by
    intro callback member touches
    rcases List.mem_append.mp member with old | new
    · exact ordered.initialised callback old touches
    · cases List.mem_singleton.mp new
      simp at touches

theorem apply_ordered (ordered : device.Ordered)
    (applied : device.apply foundation channels action = some after)
    (late : Performed.Late ⟨action, device, after⟩) :
    after.Ordered ∧ Performed.Initialised ⟨action, device, after⟩ := by
  cases action with
  | advance => exact ⟨setupCaptureDevice_ordered ordered applied, by simp [Performed.Initialised]⟩
  | deliver connection =>
    refine ⟨?_, by simp [Performed.Initialised]⟩
    simp only [apply] at applied
    split at applied
    next =>
      cases applied
      exact ordered.deliver connection
    next => cases applied
  | test callback =>
    refine ⟨?_, by simp [Performed.Initialised]⟩
    simp only [apply] at applied
    split at applied
    next connection here =>
      cases applied
      apply ordered.proceed here
      intro accepted
      split at accepted
      next same => exact late callback connection rfl here same
      next => exact absurd rfl accepted
    next => cases applied
  | produceBytes callback =>
    simp only [apply] at applied
    split at applied
    next connection here =>
      cases applied
      have initialised := ordered.initialised _ (List.mem_of_getElem? here) (.inl rfl)
      exact ⟨ordered.proceed here fun _ => initialised, by simp [Performed.Initialised, initialised]⟩
    next => cases applied
  | signal callback =>
    simp only [apply] at applied
    split at applied
    next connection here =>
      cases applied
      have initialised := ordered.initialised _ (List.mem_of_getElem? here) (.inr rfl)
      exact ⟨ordered.proceed here fun _ => initialised,
        by simp [Performed.Initialised, ordered.created initialised]⟩
    next => cases applied

theorem apply_of_step {new : List Performed} (taken : device.step foundation channels action = some (after, new)) :
    device.apply foundation channels action = some after ∧ new = [⟨action, device, after⟩] :=
  Machine.recorded_taken taken

def Endangered (foundation : AVFoundation) (channels : UInt8) (device : CaptureDevice) : Prop :=
  ∃ more last later, Machine.run (step foundation channels) device more = some (last, later) ∧
    ∃ next ∈ later, ¬next.Initialised

theorem Endangered.step {new : List Performed} {next : CaptureDevice}
    (taken : device.step foundation channels action = some (next, new))
    (endangered : Endangered foundation channels next) : Endangered foundation channels device := by
  obtain ⟨more, last, later, ran, performed, member, bad⟩ := endangered
  exact ⟨action :: more, last, new ++ later, Machine.run_cons.mpr ⟨_, _, _, taken, ran, rfl⟩, performed,
    List.mem_append_right _ member, bad⟩

theorem accepted_endangers {callback connection : Nat}
    (accepted : device.callbacks[callback]? = some ⟨connection, .accepted⟩)
    (early : device.audioSampleBuffer = none) : Endangered foundation channels device := by
  have produced : device.step foundation channels (.produceBytes callback) =
      some (device.proceed callback .produced,
        [⟨.produceBytes callback, device, device.proceed callback .produced⟩]) := by
    simp only [CaptureDevice.step, apply, accepted]
    rfl
  refine ⟨[.produceBytes callback], _, _, Machine.run_cons.mpr ⟨_, _, _, produced, Machine.run_nil _, rfl⟩,
    _, .head _, fun initialised => ?_⟩
  have made := initialised.1 callback rfl
  simp [early] at made

theorem tested_accepted (foundation : AVFoundation) (channels : UInt8) {callback connection : Nat}
    (delivered : device.callbacks[callback]? = some ⟨connection, .delivered⟩)
    (same : some connection = device.audioConnection) :
    device.apply foundation channels (.test callback) = some (device.proceed callback .accepted) ∧
      (device.proceed callback .accepted).callbacks[callback]? = some ⟨connection, .accepted⟩ := by
  simp [apply, delivered, same, proceed]

theorem delivered_endangers {callback connection : Nat}
    (delivered : device.callbacks[callback]? = some ⟨connection, .delivered⟩)
    (same : some connection = device.audioConnection) (early : device.audioSampleBuffer = none) :
    Endangered foundation channels device := by
  obtain ⟨tested, accepted⟩ := tested_accepted foundation channels delivered same
  have taken : device.step foundation channels (.test callback) =
      some (device.proceed callback .accepted,
        [⟨.test callback, device, device.proceed callback .accepted⟩]) := by
    rw [CaptureDevice.step, tested]
    rfl
  exact Endangered.step taken (accepted_endangers accepted early)

theorem early_endangers {performed : Performed}
    (applied : performed.before.apply foundation channels performed.action = some performed.after)
    (early : ¬performed.Late ∨ performed.Early) : Endangered foundation channels performed.after := by
  obtain ⟨action, before, after⟩ := performed
  rcases early with tests | ⟨connection, rfl, same, missing⟩
  · simp only [Performed.Late, not_forall] at tests
    obtain ⟨callback, connection, rfl, delivered, same, missing⟩ := tests
    obtain ⟨tested, accepted⟩ := tested_accepted foundation channels delivered same
    cases tested.symm.trans applied
    exact accepted_endangers accepted (by simpa [proceed] using missing)
  · simp only [apply] at applied
    split at applied
    next =>
      cases applied
      exact delivered_endangers (List.getElem?_concat_length) same missing
    next => cases applied

theorem callback_initialised (foundation : AVFoundation) (channels : UInt8) (actions : List Action)
    (final : CaptureDevice) (log : List Performed)
    (ran : Machine.run (step foundation channels) init actions = some (final, log)) :
    ((∀ performed ∈ log, performed.Late) → ∀ performed ∈ log, performed.Initialised) ∧
    ∀ performed ∈ log, ¬performed.Late ∨ performed.Early → Endangered foundation channels performed.after := by
  constructor
  · apply Machine.run_fit Ordered Performed.Late Performed.Initialised _ init_ordered ran
    intro device action next new ordered taken late
    obtain ⟨applied, rfl⟩ := apply_of_step taken
    obtain ⟨kept, initialised⟩ := apply_ordered ordered applied (late _ (List.mem_singleton_self _))
    exact ⟨kept, by simpa using initialised⟩
  · have steps := Machine.run_fit (fun _ => True) (fun _ => True)
      (fun performed => performed.before.apply foundation channels performed.action = some performed.after)
      (by
        intro device action next new _ taken _
        obtain ⟨applied, rfl⟩ := apply_of_step taken
        exact ⟨trivial, by simpa using applied⟩)
      trivial ran (fun _ _ => trivial)
    exact fun performed member early => early_endangers (steps performed member) early

def microphone : AVFoundation := ⟨true, true, true, some 5⟩

def patient : List Action :=
  List.replicate 10 .advance ++ [.deliver 5, .test 0, .produceBytes 0, .signal 0]

theorem callback_initialised_patient :
    ∃ final log, Machine.run (step microphone 2) init patient = some (final, log) ∧
      final.callbacks = [⟨5, .finished⟩] ∧
      ((∀ performed ∈ log, performed.Late) → ∀ performed ∈ log, performed.Initialised) :=
  ⟨_, _, rfl, rfl, (callback_initialised microphone 2 patient _ _ rfl).1⟩

-- The first samples arrive while startRunning returns.
def eager : List Action := List.replicate 7 .advance ++ [.deliver 5, .test 0, .produceBytes 0]

theorem callback_uninitialised :
    ¬∀ (foundation : AVFoundation) (channels : UInt8) (actions : List Action) (final : CaptureDevice)
        (log : List Performed),
      Machine.run (step foundation channels) init actions = some (final, log) →
      ∀ performed ∈ log, performed.Initialised := by
  intro always
  have initialised := always microphone 2 eager _ _ rfl _ (.tail _ (.tail _ (.tail _ (.tail _ (.tail _
    (.tail _ (.tail _ (.tail _ (.tail _ (.head _))))))))))
  have made := initialised.1 0 rfl
  exact absurd made (by decide)

end CaptureDevice

end Pirks.Audio
