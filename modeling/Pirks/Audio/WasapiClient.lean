import Pirks.Audio.WasapiCapture

set_option autoImplicit false

namespace Pirks.Audio

variable {Sample : Type}

inductive ClientCall where
  | waitForSingleObjectEx (wait : DWORD)
  | getNextPacketSize (status : HRESULT) (packetSize : UInt32)
  | getBuffer (status : HRESULT) (audioSampleSize : UInt32)
  | releaseBuffer (audioSampleSize : UInt32)
  deriving DecidableEq

inductive Lending where
  | resting
  | signalled
  | announced
  | lent (audioSampleSize : UInt32)
  deriving DecidableEq

def Lending.step : Lending → ClientCall → Option (Lending × List UInt32)
  | .resting, .waitForSingleObjectEx wait => some (if wait = WAIT_OBJECT_0 then .signalled else .resting, [])
  | .signalled, .getNextPacketSize status packetSize =>
      some (if SUCCEEDED status ∧ packetSize > 0 then .announced else .resting, [])
  | .announced, .getBuffer status audioSampleSize =>
      some (if status = S_OK then .lent audioSampleSize else .resting, [])
  | .lent audioSampleSize, .releaseBuffer released =>
      if released = audioSampleSize then some (.signalled, [released]) else none
  | _, _ => none

abbrev Lending.run := Machine.run Lending.step

-- The calls of one run of the loop over GetNextPacketSize, in the order of the source.
def Turn.calls : List (Turn Sample) → List ClientCall
  | [] => []
  | turn :: turns =>
      .getNextPacketSize turn.nextPacketSize.1 turn.nextPacketSize.2 ::
        if SUCCEEDED turn.nextPacketSize.1 ∧ turn.nextPacketSize.2 > 0 then
          .getBuffer turn.getBuffer.1 turn.getBuffer.2.audioSampleSize ::
            if turn.getBuffer.1 = S_OK then
              .releaseBuffer turn.getBuffer.2.audioSampleSize :: Turn.calls turns
            else []
        else []

def Event.frames? : Event Sample → Option UInt32
  | .captured _ packet => some packet.audioSampleSize
  | _ => none

def handedOut (events : List (Event Sample)) : List UInt32 := events.filterMap Event.frames?

theorem handedOut_append (events later : List (Event Sample)) :
    handedOut (events ++ later) = handedOut events ++ handedOut later :=
  List.filterMap_append

@[simp]
theorem handedOut_nil : handedOut ([] : List (Event Sample)) = [] := rfl

@[simp]
theorem handedOut_captured (free : Nat) (packet : Packet Sample) (events : List (Event Sample)) :
    handedOut (.captured free packet :: events) = packet.audioSampleSize :: handedOut events := rfl

@[simp]
theorem handedOut_checked (reinit : Bool) (events : List (Event Sample)) :
    handedOut (.checked reinit :: events) = handedOut events := rfl

@[simp]
theorem handedOut_returned (call : Returned Sample) : handedOut [.returned call] = [] := rfl

@[simp]
theorem handedOut_notified (notifications : List Notification) :
    handedOut (notifications.map Event.notified : List (Event Sample)) = [] := by
  simp [handedOut, List.filterMap_eq_nil_iff, Event.frames?]

namespace WasapiAudioInput

def fillCalls (self : WasapiAudioInput Sample) (wait : DWORD) (turns : List (Turn Sample)) : List ClientCall :=
  if self.audioNotification.checkDefaultDeviceChanged.1 then []
  else .waitForSingleObjectEx wait :: if wait = WAIT_OBJECT_0 then Turn.calls turns else []

variable [Zero Sample]

def refillCalls (sampleSize : Nat) : WasapiAudioInput Sample → List (Refill Sample) → List ClientCall
  | _, [] => []
  | self, refill_ :: refills =>
      if self.bufferPos < sampleSize then
        let notified := self.notifyAll refill_.notifications
        notified.fillCalls refill_.wait refill_.turns ++
          match notified.fillBuffer refill_.wait refill_.turns with
          | some (.OK, next, _) => refillCalls sampleSize next refills
          | _ => []
      else []

def calls (self : WasapiAudioInput Sample) : Action Sample → List ClientCall
  | .notify _ => []
  | .sample request refills => refillCalls request.sampleOut.length self refills

def conversation : WasapiAudioInput Sample → List (Action Sample) → List ClientCall
  | _, [] => []
  | self, action :: rest =>
      self.calls action ++
        match self.step action with
        | some (next, _) => conversation next rest
        | none => []

variable {input final : WasapiAudioInput Sample} {events : List (Event Sample)} {result : CaptureResult}

theorem capturePackets_lends {turns : List (Turn Sample)}
    (ran : input.capturePackets turns = some (result, final, events)) :
    Lending.run .signalled (Turn.calls turns) = some (.resting, handedOut events) := by
  induction turns generalizing input events with
  | nil => cases ran
  | cons turn turns ih =>
    simp only [WasapiAudioInput.capturePackets] at ran
    simp only [Turn.calls]
    split at ran
    next announced =>
      rw [if_pos announced]
      split at ran
      next handed =>
        rw [if_pos handed]
        split at ran
        next result' final' events' followed =>
          cases ran
          have rest := ih followed
          simp [Machine.run, Lending.step, announced, handed, rest]
        next => cases ran
      next other =>
        rw [if_neg other]
        split at ran <;> cases ran <;> simp [Machine.run, Lending.step, announced, other]
    next none_ =>
      rw [if_neg none_]
      split at ran
      next =>
        cases ran
        simp [Machine.run, Lending.step, none_]
      next => split at ran <;> cases ran <;> simp [Machine.run, Lending.step, none_]

theorem fillBuffer_lends {wait : DWORD} {turns : List (Turn Sample)}
    (ran : input.fillBuffer wait turns = some (result, final, events)) :
    Lending.run .resting (input.fillCalls wait turns) = some (.resting, handedOut events) := by
  simp only [WasapiAudioInput.fillBuffer] at ran
  simp only [fillCalls]
  split at ran
  next changed =>
    rw [if_pos changed]
    cases ran
    rfl
  next unchanged =>
    rw [if_neg unchanged]
    split at ran
    next signalled =>
      obtain ⟨⟨_, _, captures⟩, captured, same⟩ := Option.map_eq_some_iff.mp ran
      cases same
      have lends := capturePackets_lends captured
      simp [Machine.run, Lending.step, signalled, lends]
    next other =>
      split at ran <;> cases ran <;> simp [Machine.run, Lending.step, other]

theorem refill_lends {sampleSize : Nat} {refills : List (Refill Sample)}
    (ran : refill sampleSize input refills = some (result, final, events)) :
    Lending.run .resting (refillCalls sampleSize input refills) =
      some (.resting, handedOut events) := by
  induction refills generalizing input events with
  | nil =>
    simp only [WasapiAudioInput.refill] at ran
    split at ran <;> cases ran
    rfl
  | cons refill_ refills ih =>
    simp only [WasapiAudioInput.refill] at ran
    simp only [refillCalls]
    split at ran
    next short =>
      rw [if_pos short]
      split at ran
      next next_ filled captured =>
        split at ran
        next followed =>
          cases ran
          have here := fillBuffer_lends captured
          have there := ih followed
          rw [handedOut_append, handedOut_append, handedOut_notified]
          simpa [captured] using Machine.run_append here there
        next => cases ran
      next other captured =>
        cases ran
        have here := fillBuffer_lends captured
        rw [handedOut_append, handedOut_notified]
        cases result with
        | OK => exact absurd rfl other
        | _ => simpa [captured] using here
      next => cases ran
    next enough =>
      rw [if_neg enough]
      cases ran
      rfl

theorem step_lends {action : Action Sample} (taken : input.step action = some (final, events)) :
    Lending.run .resting (input.calls action) = some (.resting, handedOut events) := by
  cases action with
  | notify notification =>
    cases taken
    rfl
  | sample request refills =>
    simp only [step] at taken
    split at taken
    next call next_ events' ran =>
      cases taken
      obtain ⟨result, last, refilled, -⟩ := sample_cases ran
      have lends := refill_lends refilled
      rw [handedOut_append]
      simpa [calls] using lends
    next => cases taken

theorem packets_go_back (input : WasapiAudioInput Sample) (actions : List (Action Sample))
    (final : WasapiAudioInput Sample) (log : List (Event Sample))
    (ran : Machine.run step input actions = some (final, log)) :
    Lending.run .resting (conversation input actions) = some (.resting, handedOut log) := by
  induction actions generalizing input log with
  | nil =>
    cases ran
    rfl
  | cons action rest ih =>
    obtain ⟨next, new, later, taken, followed, rfl⟩ := Machine.run_cons.mp ran
    have here := step_lends taken
    have there := ih next later followed
    rw [handedOut_append]
    simpa [conversation, taken] using Machine.run_append here there

def mono : List (Action Float32) :=
  [.sample ⟨[5, 5, 5, 5], by decide⟩ [⟨[], WAIT_OBJECT_0,
    [⟨(S_OK, 3), (S_OK, ⟨3, false, Float32.ofNat⟩)⟩, ⟨(S_OK, 0), (S_OK, ⟨0, true, Float32.ofNat⟩)⟩]⟩,
    ⟨[], WAIT_TIMEOUT, []⟩],
   .sample ⟨[5, 5, 5, 5], by decide⟩ [⟨[], WAIT_OBJECT_0,
    [⟨(S_OK, 2), (S_OK, ⟨2, true, Float32.ofNat⟩)⟩, ⟨(S_OK, 0), (S_OK, ⟨0, true, Float32.ofNat⟩)⟩]⟩]]

theorem packets_go_back_mono :
    ∃ (final : WasapiAudioInput Float32) (log : List (Event Float32)),
      Machine.run step (start 1 6) mono = some (final, log) ∧ handedOut log = [3, 2] ∧
      Lending.run .resting (conversation (start 1 6) mono) = some (.resting, handedOut log) := by
  obtain ⟨final, log, ran, frames⟩ : ∃ (final : WasapiAudioInput Float32) (log : List (Event Float32)),
      Machine.run step (start 1 6) mono = some (final, log) ∧ handedOut log = [3, 2] := ⟨_, _, rfl, rfl⟩
  exact ⟨final, log, ran, frames, packets_go_back (start 1 6) mono final log ran⟩

end WasapiAudioInput

end Pirks.Audio
