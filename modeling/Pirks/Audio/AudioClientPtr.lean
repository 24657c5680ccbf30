import Pirks.Audio.AudioFormats
import Pirks.Audio.WasapiCapacity

set_option autoImplicit false

namespace Pirks.Audio

open Execution PlatformWindows

inductive ClientEvent where
  | activated (position : Nat)
  | mixFormatAllocated (position : Nat)
  | initialized (position : Nat) (waveformat : WAVEFORMATEXTENSIBLE)
  | logged (text : String)
  | stopped (position : Nat)
  | released (position : Nat)
  deriving DecidableEq

namespace AudioClientPtr

def captureWaveformat (format : AudioFormatEntry) (mixer : WAVEFORMATEXTENSIBLE) : WAVEFORMATEXTENSIBLE :=
  let capture :=
    createWaveformat .f32 format.channelCount.toUInt16 format.captureWaveformatChannelMask
  if mixer.Format.nChannels = format.channelCount.toUInt16 ∧ mixer.Format.wFormatTag = WAVE_FORMAT_EXTENSIBLE ∧
      mixer.Format.cbSize ≥ 22 then
    { capture with dwChannelMask := mixer.dwChannelMask }
  else capture

-- The constructor, with what GetMixFormat points to. When it throws, the base class still releases the client.
def construct (os : Os) (mixer : Nat → WAVEFORMATEXTENSIBLE) (position : Nat) (format : AudioFormatEntry) :
    Except Exception WAVEFORMATEXTENSIBLE × List ClientEvent :=
  let status := os.activate position
  if FAILED status then
    (.error ⟨literal "Couldn't create Audio Client. HRESULT = 0x", some status.toInt⟩, [])
  else
    let status := os.getMixFormat position
    if FAILED status then
      (.error ⟨literal "Couldn't get mix format for audio device. HRESULT = 0x", some status.toInt⟩,
        [.activated position, .released position])
    else
      let waveformat := captureWaveformat format (mixer position)
      let status := os.initialize_ position
      if status ≠ S_OK then
        (.error ⟨literal "Couldn't initialize audio client for " ++ literal format.name ++ literal ". HRESULT = 0x",
            some status.toInt⟩,
          [.activated position, .mixFormatAllocated position, .released position])
      else
        (.ok waveformat, [.activated position, .mixFormatAllocated position, .initialized position waveformat,
          .logged ("Audio capture format is " ++ waveformatToStr waveformat)])

-- ~AudioClientPtr, then ~Interface
def destruct (position : Nat) : List ClientEvent := [.stopped position, .released position]

structure Opened where
  position : Nat
  format : AudioFormatEntry
  waveformat : WAVEFORMATEXTENSIBLE

def tryFormats (os : Os) (mixer : Nat → WAVEFORMATEXTENSIBLE) (channels : UInt8) :
    Nat → List AudioFormatEntry → Option Opened × List ClientEvent
  | _, [] => (none, [])
  | position, format :: rest =>
      if format.channelCount ≠ channels then tryFormats os mixer channels (position + 1) rest
      else
        match construct os mixer position format with
        | (.ok waveformat, events) => (some ⟨position, format, waveformat⟩, events)
        | (.error _, events) =>
            let (opened, later) := tryFormats os mixer channels (position + 1) rest
            (opened, events ++ later)

variable {os : Os} {mixer : Nat → WAVEFORMATEXTENSIBLE} {channels : UInt8}

theorem construct_eq (os : Os) (mixer : Nat → WAVEFORMATEXTENSIBLE) (position : Nat) (format : AudioFormatEntry) :
    (construct os mixer position format).1.map (fun _ => ()) =
      WasapiObject.audioClientPtr os position format.toAudioFormat := by
  unfold construct WasapiObject.audioClientPtr
  cases activated : FAILED (os.activate position) <;> cases mixed : FAILED (os.getMixFormat position) <;>
    by_cases ready : os.initialize_ position = S_OK <;>
    simp [activated, mixed, ready, throw, throwThe, MonadExceptOf.throw, pure, Except.pure, Except.map]

theorem tryFormats_eq (os : Os) (mixer : Nat → WAVEFORMATEXTENSIBLE) (position : Nat) (formats : List AudioFormatEntry) (object : WasapiObject)
    (fresh : object.audioClient = none) :
    perform (WasapiObject.tryFormats os position (formats.map AudioFormatEntry.toAudioFormat)) object =
      (.ok (), { object with
        audioClient := (tryFormats os mixer object.channels position formats).1.map fun opened =>
          opened.format.toAudioFormat }) := by
  induction formats generalizing position with
  | nil => simp [WasapiObject.tryFormats, tryFormats, ← fresh]
  | cons format rest ih =>
    have next := ih (position + 1)
    by_cases other : format.channelCount = object.channels
    · have single := construct_eq os mixer position format
      rcases trial : construct os mixer position format with ⟨thrown | waveformat, events⟩
      · rw [trial] at single
        simp only [Except.map] at single
        simp [WasapiObject.tryFormats, tryFormats, other, trial, ← single, perform_bind, next]
      · rw [trial] at single
        simp only [Except.map] at single
        simp [WasapiObject.tryFormats, tryFormats, other, trial, ← single, perform_bind]
    · simp [WasapiObject.tryFormats, tryFormats, other, perform_bind, next]

section Layout

variable {format : AudioFormatEntry}

/-- The format in which sample() takes the packets apart: interleaved floats, as many as there are channels. -/
structure Interleaves (waveformat : WAVEFORMATEXTENSIBLE) (channels : UInt8) : Prop where
  wellFormed : WellFormed waveformat
  float : waveformat.SubFormat = .KSDATAFORMAT_SUBTYPE_IEEE_FLOAT ∧ waveformat.Format.wBitsPerSample = 32
  rate : waveformat.Format.nSamplesPerSec = SAMPLE_RATE
  channels_eq : waveformat.Format.nChannels.toNat = channels.toNat
  frame : ∀ frames, frames * waveformat.Format.nBlockAlign.toNat = 4 * (frames * channels.toNat)

theorem captureWaveformat_cases (format : AudioFormatEntry) (mixer : WAVEFORMATEXTENSIBLE) :
    ∃ mask, captureWaveformat format mixer = createWaveformat .f32 format.channelCount.toUInt16 mask ∧
      (mask = format.captureWaveformatChannelMask ∨
        mask = mixer.dwChannelMask ∧ mixer.Format.nChannels.toNat = format.channelCount.toNat) := by
  unfold captureWaveformat
  split
  next matches_ =>
    refine ⟨mixer.dwChannelMask, rfl, .inr ⟨rfl, ?_⟩⟩
    rw [matches_.1, UInt8.toNat_toUInt16]
  next => exact ⟨format.captureWaveformatChannelMask, rfl, .inl rfl⟩

theorem captureWaveformat_interleaves (format : AudioFormatEntry) (mixer : WAVEFORMATEXTENSIBLE) :
    Interleaves (captureWaveformat format mixer) format.channelCount := by
  obtain ⟨mask, same, -⟩ := captureWaveformat_cases format mixer
  rw [same]
  have wellFormed := createWaveformat_byte .f32 format.channelCount mask
  have channels : (createWaveformat .f32 format.channelCount.toUInt16 mask).Format.nChannels.toNat =
      format.channelCount.toNat := UInt8.toNat_toUInt16 _
  refine ⟨wellFormed, ⟨rfl, rfl⟩, rfl, channels, fun frames => ?_⟩
  have block := wellFormed.block
  rw [channels] at block
  have bits : (createWaveformat .f32 format.channelCount.toUInt16 mask).Format.wBitsPerSample.toNat = 32 := rfl
  rw [bits] at block
  have exact_ : (createWaveformat .f32 format.channelCount.toUInt16 mask).Format.nBlockAlign.toNat =
      4 * format.channelCount.toNat := by omega
  rw [exact_, Nat.mul_left_comm]

theorem construct_ok {position : Nat} {waveformat : WAVEFORMATEXTENSIBLE} {events : List ClientEvent}
    (constructed : construct os mixer position format = (.ok waveformat, events)) :
    waveformat = captureWaveformat format (mixer position) := by
  unfold construct at constructed
  cases activated : FAILED (os.activate position) <;> cases mixed : FAILED (os.getMixFormat position) <;>
    by_cases ready : os.initialize_ position = S_OK <;> simp [activated, mixed, ready] at constructed
  exact constructed.1.symm

theorem tryFormats_opened {position : Nat} {formats : List AudioFormatEntry} {opened : Opened}
    (found : (tryFormats os mixer channels position formats).1 = some opened) :
    opened.format ∈ formats ∧ opened.format.channelCount = channels ∧
      opened.waveformat = captureWaveformat opened.format (mixer opened.position) := by
  induction formats generalizing position with
  | nil => cases found
  | cons format rest ih =>
    simp only [tryFormats] at found
    split at found
    next =>
      obtain ⟨member, same, negotiated⟩ := ih found
      exact ⟨List.mem_cons_of_mem _ member, same, negotiated⟩
    next matches_ =>
      split at found
      next waveformat events constructed =>
        cases found
        exact ⟨List.mem_cons_self, not_not.mp matches_, construct_ok constructed⟩
      next =>
        obtain ⟨member, same, negotiated⟩ := ih found
        exact ⟨List.mem_cons_of_mem _ member, same, negotiated⟩

end Layout

section Objects

open WasapiObject

variable {formats : List AudioFormatEntry} {object after : WasapiObject}

theorem openClient_client (mixer : Nat → WAVEFORMATEXTENSIBLE) {device : Option Nat} {missing : StdString}
    (fresh : object.audioClient = none)
    (ran : perform (openClient os (formats.map AudioFormatEntry.toAudioFormat) device missing) object = (.ok (), after)) :
    ∃ opened, (tryFormats os mixer object.channels 0 formats).1 = some opened ∧
      after.audioClient = some opened.format.toAudioFormat := by
  have tried := tryFormats_eq os mixer 0 formats { object with device } fresh
  cases present : device.isSome with
  | false => simp [openClient, perform_bind, present] at ran
  | true =>
    cases found : (tryFormats os mixer object.channels 0 formats).1 with
    | none => simp [openClient, perform_bind, present, tried, found] at ran
    | some opened =>
      simp [openClient, perform_bind, present, tried, found] at ran
      exact ⟨opened, rfl, by rw [← ran]⟩

theorem stream_interleaves (os : Os) (mixer : Nat → WAVEFORMATEXTENSIBLE) (formats : List AudioFormatEntry)
    (audioSource : StdString) (channels : Int32) (frameSize : UInt32) (object : WasapiObject)
    (made : create os (formats.map AudioFormatEntry.toAudioFormat) audioSource channels frameSize = some object) :
    ∃ opened, (tryFormats os mixer object.channels 0 formats).1 = some opened ∧
      object.audioClient = some opened.format.toAudioFormat ∧ opened.format ∈ formats ∧
      Interleaves opened.waveformat object.channels ∧
      (opened.waveformat.dwChannelMask = opened.format.captureWaveformatChannelMask ∨
        opened.waveformat.dwChannelMask = (mixer opened.position).dwChannelMask ∧
          (mixer opened.position).Format.nChannels.toNat = object.channels.toNat) := by
  obtain ⟨device, missing, chosen⟩ := chosenConstructor_eq os (formats.map AudioFormatEntry.toAudioFormat) audioSource frameSize
  rw [create_eq_completes, chosen, completes_iff] at made
  obtain ⟨_, registered, listening, ran⟩ := perform_bind_ok made.2
  obtain ⟨-, listened⟩ := registerNotifications_ok rfl listening
  obtain ⟨_, client, opening, ran⟩ := perform_bind_ok ran
  have unopened : registered.audioClient = none := by rw [listened]; rfl
  obtain ⟨opened, found, client_⟩ := openClient_client mixer unopened opening
  obtain ⟨-, _, _, -, -, opens⟩ := openClient_ok unopened opening
  obtain ⟨_, prepared, preparing, ran⟩ := perform_bind_ok ran
  obtain ⟨-, prepares⟩ := prepareBuffer_ok preparing
  have untasked : prepared.mmcssTaskHandle = .default WinHandle := by rw [prepares, opens, listened]; rfl
  obtain ⟨-, starts⟩ := startCapture_ok untasked ran
  have kept : object.channels = registered.channels := by rw [starts, prepares, opens]
  have client' : object.audioClient = client.audioClient := by rw [starts, prepares]
  obtain ⟨member, count, negotiated⟩ := tryFormats_opened found
  rw [← kept] at found count
  have layout := captureWaveformat_interleaves opened.format (mixer opened.position)
  rw [← negotiated, count] at layout
  refine ⟨opened, found, by rw [client', client_], member, layout, ?_⟩
  obtain ⟨mask, same, source⟩ := captureWaveformat_cases opened.format (mixer opened.position)
  rw [negotiated, same]
  rwa [count] at source

theorem stream_interleaves_stereo :
    ∃ opened, (tryFormats withDevice (fun _ => createWaveformat .s16 2 0x3) 2 0 s_AudioFormats).1 = some opened ∧
      some (⟨2, "Stereo"⟩ : AudioFormat) = some opened.format.toAudioFormat ∧ opened.format ∈ s_AudioFormats ∧
      Interleaves opened.waveformat 2 ∧
      (opened.waveformat.dwChannelMask = opened.format.captureWaveformatChannelMask ∨
        opened.waveformat.dwChannelMask = 0x3 ∧ (2 : UInt16).toNat = (2 : UInt8).toNat) :=
  have made : create withDevice (s_AudioFormats.map AudioFormatEntry.toAudioFormat) [] 2 480 =
      some (completed withDevice 2 480 (some 0) ⟨2, "Stereo"⟩) := rfl
  stream_interleaves withDevice (fun _ => createWaveformat .s16 2 0x3) s_AudioFormats [] 2 480 _ made

end Objects

section References

structure Tally (os : Os) (position : Nat) (kept : Bool) (events : List ClientEvent) : Prop where
  released : events.count (.activated position) = events.count (.released position) + (if kept then 1 else 0)
  once : events.count (.activated position) ≤ 1
  running : events.count (.stopped position) = 0
  -- CoTaskMemFree is never called on the block that GetMixFormat allocates.
  leaked : events.count (.mixFormatAllocated position) =
    if FAILED (os.getMixFormat position) then 0 else events.count (.activated position)

theorem Tally.nothing (os : Os) (position : Nat) : Tally os position false [] :=
  ⟨rfl, Nat.zero_le _, rfl, by split <;> rfl⟩

def keeps (opened : Option Opened) (position : Nat) : Bool := opened.any fun client => decide (client.position = position)

theorem construct_tally (os : Os) (mixer : Nat → WAVEFORMATEXTENSIBLE) (format : AudioFormatEntry) (tried position : Nat) :
    Tally os position (decide ((construct os mixer tried format).1.toBool ∧ tried = position))
      (construct os mixer tried format).2 ∧
    (tried ≠ position → (construct os mixer tried format).2.count (.activated position) = 0) := by
  unfold construct
  by_cases same : tried = position
  · subst same
    cases activated : FAILED (os.activate tried) <;> cases mixed : FAILED (os.getMixFormat tried) <;>
      by_cases ready : os.initialize_ tried = S_OK <;>
      simp [activated, mixed, ready, Except.toBool] <;> constructor <;> simp [mixed]
  · cases activated : FAILED (os.activate tried) <;> cases mixed : FAILED (os.getMixFormat tried) <;>
      by_cases ready : os.initialize_ tried = S_OK <;>
      simp [activated, mixed, ready, same, Except.toBool] <;> constructor <;> simp [same]

theorem Tally.append {position : Nat} {kept : Bool} {events later : List ClientEvent}
    (first : Tally os position false events) (second : Tally os position kept later)
    (apart : events.count (.activated position) = 0 ∨ later.count (.activated position) = 0) :
    Tally os position kept (events ++ later) := by
  obtain ⟨released, once, running, leaked⟩ := first
  obtain ⟨released', once', running', leaked'⟩ := second
  simp only [Bool.false_eq_true, if_false, Nat.add_zero] at released
  refine ⟨?_, ?_, ?_, ?_⟩ <;> simp only [List.count_append]
  · omega
  · omega
  · omega
  · rw [leaked, leaked']
    split <;> omega

theorem tryFormats_tally (os : Os) (mixer : Nat → WAVEFORMATEXTENSIBLE) (channels : UInt8) (first : Nat)
    (formats : List AudioFormatEntry) (position : Nat) :
    Tally os position (keeps (tryFormats os mixer channels first formats).1 position)
      (tryFormats os mixer channels first formats).2 ∧
    (position < first → (tryFormats os mixer channels first formats).2.count (.activated position) = 0) := by
  induction formats generalizing first with
  | nil => exact ⟨Tally.nothing os position, fun _ => rfl⟩
  | cons format rest ih =>
    obtain ⟨followed, untouched⟩ := ih (first + 1)
    obtain ⟨trial, elsewhere⟩ := construct_tally os mixer format first position
    simp only [tryFormats]
    split
    next => exact ⟨followed, fun before => untouched (by omega)⟩
    next =>
      split
      next waveformat events constructed =>
        rw [constructed] at trial elsewhere
        refine ⟨?_, fun before => elsewhere (by omega)⟩
        simpa [keeps, Except.toBool] using trial
      next error events thrown =>
        rw [thrown] at trial elsewhere
        simp only [Except.toBool, Bool.false_eq_true, false_and, decide_false] at trial elsewhere
        refine ⟨trial.append followed ?_, fun before => ?_⟩
        · by_cases same : first = position
          · exact .inr (untouched (by omega))
          · exact .inl (elsewhere same)
        · rw [List.count_append, elsewhere (by omega), untouched (by omega)]

def lifetime (os : Os) (mixer : Nat → WAVEFORMATEXTENSIBLE) (channels : UInt8) (formats : List AudioFormatEntry) :
    List ClientEvent :=
  let (opened, events) := tryFormats os mixer channels 0 formats
  events ++ (opened.map fun client => destruct client.position).getD []

theorem client_references_balanced (os : Os) (mixer : Nat → WAVEFORMATEXTENSIBLE) (channels : UInt8)
    (formats : List AudioFormatEntry) (position : Nat) :
    (lifetime os mixer channels formats).count (.activated position) =
        (lifetime os mixer channels formats).count (.released position) ∧
      (lifetime os mixer channels formats).count (.activated position) ≤ 1 ∧
      (lifetime os mixer channels formats).count (.stopped position) =
        (if keeps (tryFormats os mixer channels 0 formats).1 position then 1 else 0) ∧
      (lifetime os mixer channels formats).count (.mixFormatAllocated position) =
        if FAILED (os.getMixFormat position) then 0
        else (lifetime os mixer channels formats).count (.activated position) := by
  obtain ⟨⟨released, once, running, leaked⟩, -⟩ := tryFormats_tally os mixer channels 0 formats position
  unfold lifetime
  generalize tryFormats os mixer channels 0 formats = tried at released once running leaked ⊢
  obtain ⟨opened, events⟩ := tried
  dsimp only at released once running leaked ⊢
  cases opened with
  | none => simpa [keeps] using ⟨released, once, running, leaked⟩
  | some client =>
    by_cases mine : client.position = position
    · simp [keeps, mine] at released
      simpa [keeps, mine, destruct, released, running, leaked] using once
    · simp [keeps, mine] at released
      simpa [keeps, mine, destruct] using ⟨released, once, running, leaked⟩

end References

end AudioClientPtr

end Pirks.Audio
