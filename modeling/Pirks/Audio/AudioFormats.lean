import Pirks.Audio.WasapiLifetime

set_option autoImplicit false

namespace Pirks.Audio

-- mmreg.h and ksmedia.h
def WAVE_FORMAT_EXTENSIBLE : UInt16 := 0xFFFE

def SPEAKER_FRONT_LEFT : UInt32 := 0x1

def SPEAKER_FRONT_RIGHT : UInt32 := 0x2

def SPEAKER_FRONT_CENTER : UInt32 := 0x4

def SPEAKER_LOW_FREQUENCY : UInt32 := 0x8

def SPEAKER_BACK_LEFT : UInt32 := 0x10

def SPEAKER_BACK_RIGHT : UInt32 := 0x20

def SPEAKER_SIDE_LEFT : UInt32 := 0x200

def SPEAKER_SIDE_RIGHT : UInt32 := 0x400

inductive SubFormat where
  | KSDATAFORMAT_SUBTYPE_IEEE_FLOAT
  | KSDATAFORMAT_SUBTYPE_PCM
  | other
  deriving DecidableEq

structure WAVEFORMATEX where
  wFormatTag : UInt16
  nChannels : UInt16
  nSamplesPerSec : UInt32
  nAvgBytesPerSec : UInt32
  nBlockAlign : UInt16
  wBitsPerSample : UInt16
  cbSize : UInt16
  deriving DecidableEq

structure WAVEFORMATEXTENSIBLE where
  Format : WAVEFORMATEX
  wValidBitsPerSample : UInt16
  dwChannelMask : UInt32
  SubFormat : SubFormat
  deriving DecidableEq

def SAMPLE_RATE : UInt32 := 48000

def WF_MASK_STEREO : UInt32 := SPEAKER_FRONT_LEFT ||| SPEAKER_FRONT_RIGHT

def WF_MASK_SURROUND51_WITH_BACKSPEAKERS : UInt32 :=
  SPEAKER_FRONT_LEFT ||| SPEAKER_FRONT_RIGHT ||| SPEAKER_FRONT_CENTER ||| SPEAKER_LOW_FREQUENCY |||
    SPEAKER_BACK_LEFT ||| SPEAKER_BACK_RIGHT

def WF_MASK_SURROUND51_WITH_SIDESPEAKERS : UInt32 :=
  SPEAKER_FRONT_LEFT ||| SPEAKER_FRONT_RIGHT ||| SPEAKER_FRONT_CENTER ||| SPEAKER_LOW_FREQUENCY |||
    SPEAKER_SIDE_LEFT ||| SPEAKER_SIDE_RIGHT

def WF_MASK_SURROUND71 : UInt32 :=
  SPEAKER_FRONT_LEFT ||| SPEAKER_FRONT_RIGHT ||| SPEAKER_FRONT_CENTER ||| SPEAKER_LOW_FREQUENCY |||
    SPEAKER_BACK_LEFT ||| SPEAKER_BACK_RIGHT ||| SPEAKER_SIDE_LEFT ||| SPEAKER_SIDE_RIGHT

inductive SampleFormat where
  | f32
  | s32
  | s24in32
  | s24
  | s16
  deriving DecidableEq

def SampleFormat.layout : SampleFormat → SubFormat × UInt16 × UInt16
  | .f32 => (.KSDATAFORMAT_SUBTYPE_IEEE_FLOAT, 32, 32)
  | .s32 => (.KSDATAFORMAT_SUBTYPE_PCM, 32, 32)
  | .s24in32 => (.KSDATAFORMAT_SUBTYPE_PCM, 32, 24)
  | .s24 => (.KSDATAFORMAT_SUBTYPE_PCM, 24, 24)
  | .s16 => (.KSDATAFORMAT_SUBTYPE_PCM, 16, 16)

-- The block align is computed as an int and cast to a WORD; the assertion on it is compiled out.
def createWaveformat (sampleFormat : SampleFormat) (channelCount : UInt16) (channelMask : UInt32) :
    WAVEFORMATEXTENSIBLE :=
  let (subFormat, bitsPerSample, validBits) := sampleFormat.layout
  let blockAlign := UInt16.ofNat (channelCount.toNat * bitsPerSample.toNat / 8)
  { Format :=
      { wFormatTag := WAVE_FORMAT_EXTENSIBLE
        nChannels := channelCount
        nSamplesPerSec := SAMPLE_RATE
        nAvgBytesPerSec := SAMPLE_RATE * blockAlign.toUInt32
        nBlockAlign := blockAlign
        wBitsPerSample := bitsPerSample
        -- sizeof(WAVEFORMATEXTENSIBLE) - sizeof(WAVEFORMATEX)
        cbSize := 22 }
    wValidBitsPerSample := validBits
    dwChannelMask := channelMask
    SubFormat := subFormat }

-- The template is instantiated for these three counts only.
def createVirtualSinkFormats (channelCount : UInt8) : List WAVEFORMATEXTENSIBLE :=
  let create (sampleFormat : SampleFormat) (mask : UInt32) :=
    createWaveformat sampleFormat channelCount.toUInt16 mask
  if channelCount = 2 then
    [.s24in32, .s24, .s16, .f32, .s32].map fun sampleFormat => create sampleFormat WF_MASK_STEREO
  else if channelCount = 6 then
    [.f32, .s32, .s24in32, .s24, .s16].flatMap fun sampleFormat =>
      [create sampleFormat WF_MASK_SURROUND51_WITH_BACKSPEAKERS,
        create sampleFormat WF_MASK_SURROUND51_WITH_SIDESPEAKERS]
  else if channelCount = 8 then
    [.f32, .s32, .s24in32, .s24, .s16].map fun sampleFormat => create sampleFormat WF_MASK_SURROUND71
  else []

structure AudioFormatEntry extends AudioFormat where
  captureWaveformatChannelMask : UInt32
  virtualSinkWaveformats : List WAVEFORMATEXTENSIBLE

def s_AudioFormats : List AudioFormatEntry :=
  [⟨⟨2, "Stereo"⟩, WF_MASK_STEREO, createVirtualSinkFormats 2⟩,
    ⟨⟨6, "Surround 5.1"⟩, WF_MASK_SURROUND51_WITH_BACKSPEAKERS, createVirtualSinkFormats 6⟩,
    ⟨⟨8, "Surround 7.1"⟩, WF_MASK_SURROUND71, createVirtualSinkFormats 8⟩]

def waveformatToStr (waveformat : WAVEFORMATEXTENSIBLE) : String :=
  let subFormat :=
    match waveformat.SubFormat with
    | .KSDATAFORMAT_SUBTYPE_IEEE_FLOAT => "F"
    | .KSDATAFORMAT_SUBTYPE_PCM => "S"
    | .other => "UNKNOWN"
  let channels :=
    if waveformat.dwChannelMask = WF_MASK_STEREO then "2.0"
    else if waveformat.dwChannelMask = WF_MASK_SURROUND51_WITH_BACKSPEAKERS then "5.1"
    else if waveformat.dwChannelMask = WF_MASK_SURROUND51_WITH_SIDESPEAKERS then "5.1 (sidespeakers)"
    else if waveformat.dwChannelMask = WF_MASK_SURROUND71 then "7.1"
    else toString waveformat.Format.nChannels.toNat ++ " channels (unrecognized)"
  subFormat ++ toString waveformat.wValidBitsPerSample.toNat ++ " " ++
    toString waveformat.Format.nSamplesPerSec.toNat ++ " " ++ channels

/-- The rules that WAVEFORMATEXTENSIBLE has for its own fields. -/
structure WellFormed (waveformat : WAVEFORMATEXTENSIBLE) : Prop where
  extensible : waveformat.Format.wFormatTag = WAVE_FORMAT_EXTENSIBLE ∧ waveformat.Format.cbSize = 22
  valid : waveformat.wValidBitsPerSample ≤ waveformat.Format.wBitsPerSample
  block : 8 * waveformat.Format.nBlockAlign.toNat =
    waveformat.Format.nChannels.toNat * waveformat.Format.wBitsPerSample.toNat
  average : waveformat.Format.nAvgBytesPerSec.toNat =
    waveformat.Format.nSamplesPerSec.toNat * waveformat.Format.nBlockAlign.toNat

def speakers (mask : UInt32) : Nat := (List.range 32).countP fun bit => mask.toNat.testBit bit

theorem layout_bits (sampleFormat : SampleFormat) :
    ∃ bytes, sampleFormat.layout.2.1.toNat = 8 * bytes ∧ 2 ≤ bytes ∧ bytes ≤ 4 ∧
      sampleFormat.layout.2.2 ≤ sampleFormat.layout.2.1 := by
  cases sampleFormat
  case s16 => exact ⟨2, rfl, by decide, by decide, by decide⟩
  case s24 => exact ⟨3, rfl, by decide, by decide, by decide⟩
  all_goals exact ⟨4, rfl, by decide, by decide, by decide⟩

theorem average_exact (blockAlign : UInt16) :
    (SAMPLE_RATE * blockAlign.toUInt32).toNat = SAMPLE_RATE.toNat * blockAlign.toNat := by
  have bounded := blockAlign.toNat_lt
  have rate : SAMPLE_RATE.toNat = 48000 := rfl
  rw [UInt32.toNat_mul, UInt16.toNat_toUInt32, rate]
  exact Nat.mod_eq_of_lt (by omega)

theorem createWaveformat_block (sampleFormat : SampleFormat) (channelCount : UInt16) (channelMask : UInt32) :
    (createWaveformat sampleFormat channelCount channelMask).Format.nBlockAlign.toNat =
      channelCount.toNat * sampleFormat.layout.2.1.toNat / 8 % UInt16.size := by
  cases sampleFormat <;> exact UInt16.toNat_ofNat'

theorem createWaveformat_wellFormed_iff (sampleFormat : SampleFormat) (channelCount : UInt16) (channelMask : UInt32) :
    WellFormed (createWaveformat sampleFormat channelCount channelMask) ↔
      channelCount.toNat * sampleFormat.layout.2.1.toNat < 8 * UInt16.size := by
  obtain ⟨bytes, bits, -, -, valid⟩ := layout_bits sampleFormat
  have block := createWaveformat_block sampleFormat channelCount channelMask
  have product : channelCount.toNat * (8 * bytes) = 8 * (channelCount.toNat * bytes) := Nat.mul_left_comm _ _ _
  rw [bits, product, Nat.mul_div_cancel_left _ (by decide : 0 < 8)] at block
  rw [bits, product]
  constructor
  · intro wellFormed
    have exact_ : 8 * (createWaveformat sampleFormat channelCount channelMask).Format.nBlockAlign.toNat =
        channelCount.toNat * sampleFormat.layout.2.1.toNat := wellFormed.block
    have small := Nat.mod_lt (channelCount.toNat * bytes) (by decide : 0 < UInt16.size)
    rw [bits, product] at exact_
    omega
  · intro small
    rw [Nat.mod_eq_of_lt (by omega)] at block
    refine ⟨⟨rfl, rfl⟩, valid, ?_, average_exact _⟩
    change 8 * (createWaveformat sampleFormat channelCount channelMask).Format.nBlockAlign.toNat =
      channelCount.toNat * sampleFormat.layout.2.1.toNat
    rw [block, bits, product]

theorem createWaveformat_byte (sampleFormat : SampleFormat) (channelCount : UInt8) (channelMask : UInt32) :
    WellFormed (createWaveformat sampleFormat channelCount.toUInt16 channelMask) := by
  rw [createWaveformat_wellFormed_iff]
  obtain ⟨bytes, bits, -, narrow, -⟩ := layout_bits sampleFormat
  have small := channelCount.toNat_lt
  rw [bits, UInt8.toNat_toUInt16]
  calc channelCount.toNat * (8 * bytes) ≤ 255 * (8 * 4) := Nat.mul_le_mul (by omega) (by omega)
    _ < 8 * UInt16.size := by decide

theorem createVirtualSinkFormats_wellFormed (channelCount : UInt8) :
    ∀ sink ∈ createVirtualSinkFormats channelCount,
      WellFormed sink ∧ sink.Format.nChannels = channelCount.toUInt16 := by
  intro sink member
  obtain ⟨sampleFormat, mask, rfl⟩ :
      ∃ sampleFormat mask, sink = createWaveformat sampleFormat channelCount.toUInt16 mask := by
    unfold createVirtualSinkFormats at member
    split at member
    · obtain ⟨sampleFormat, -, rfl⟩ := List.mem_map.mp member
      exact ⟨_, _, rfl⟩
    · split at member
      · obtain ⟨sampleFormat, -, found⟩ := List.mem_flatMap.mp member
        rcases List.mem_pair.mp found with rfl | rfl <;> exact ⟨_, _, rfl⟩
      · split at member
        · obtain ⟨sampleFormat, -, rfl⟩ := List.mem_map.mp member
          exact ⟨_, _, rfl⟩
        · cases member
  exact ⟨createWaveformat_byte sampleFormat channelCount mask, rfl⟩

theorem table_formats : ∀ format ∈ s_AudioFormats,
    speakers format.captureWaveformatChannelMask = format.channelCount.toNat ∧
      format.virtualSinkWaveformats = createVirtualSinkFormats format.channelCount ∧
      ∀ sink ∈ format.virtualSinkWaveformats, speakers sink.dwChannelMask = format.channelCount.toNat := by
  decide

end Pirks.Audio
