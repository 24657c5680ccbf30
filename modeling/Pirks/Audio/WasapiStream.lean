import Pirks.Audio.WasapiCapture

set_option autoImplicit false

namespace Pirks.Audio.WasapiAudioInput

variable {Sample : Type} [Zero Sample]

def contents (channels : UInt8) (packet : Packet Sample) : List Sample :=
  packet.first (packet.audioSampleSize.toNat * channels.toNat)

def due (channels : UInt8) : Event Sample → List Sample
  | .captured free packet =>
      (contents channels packet).take (min free (packet.audioSampleSize.toNat * channels.toNat))
  | _ => []

-- What the code appends: the product is taken modulo 2 ^ 32.
def stored (channels : UInt8) : Event Sample → List Sample
  | .captured free packet =>
      packet.first (min free (packet.audioSampleSize.toNat * channels.toNat % UInt32.size))
  | _ => []

def output : Event Sample → List Sample
  | .returned call => if call.result = .OK then call.sampleOutAfter else []
  | _ => []

def Counted (channels : UInt8) (free : Nat) (packet : Packet Sample) : Prop :=
  packet.audioSampleSize.toNat * channels.toNat < UInt32.size ∨
    free ≤ packet.audioSampleSize.toNat * channels.toNat % UInt32.size

def Kept (call : Returned Sample) : Prop :=
  call.result ≠ .OK → call.sampleOutAfter = call.sampleOut ∧ call.residue <+: call.residueAfter

variable {input next final : WasapiAudioInput Sample} {events later log : List (Event Sample)}
  {channels : UInt8}

structure Grows (before after : WasapiAudioInput Sample) (events : List (Event Sample)) : Prop where
  residue_eq : after.residue = before.residue ++ events.flatMap (stored before.channels)
  channels_eq : after.channels = before.channels
  bounded : ∀ free packet, .captured free packet ∈ events → free < UInt32.size
  inner : ∀ call, .returned call ∉ events

theorem Grows.refl (input : WasapiAudioInput Sample) : Grows input input [] :=
  ⟨by simp, rfl, by simp, by simp⟩

theorem Grows.trans (first : Grows input next events) (second : Grows next final later) :
    Grows input final (events ++ later) where
  residue_eq := by
    rw [second.residue_eq, first.residue_eq, first.channels_eq]
    simp
  channels_eq := second.channels_eq.trans first.channels_eq
  bounded := by
    intro free packet member
    rcases List.mem_append.mp member with old | recent
    · exact first.bounded free packet old
    · exact second.bounded free packet recent
  inner := by
    intro call member
    rcases List.mem_append.mp member with old | recent
    · exact first.inner call old
    · exact second.inner call recent

theorem Grows.output_nil (grows : Grows input final events) : events.flatMap output = [] := by
  apply List.flatMap_eq_nil_iff.mpr
  intro event member
  cases event with
  | returned call => exact absurd member (grows.inner call)
  | notified | checked | captured => rfl

theorem append_grows (input : WasapiAudioInput Sample) (packet : Packet Sample) :
    Grows input (input.append packet) [.captured input.free packet] where
  residue_eq := by simp [append_residue, appended_eq, stored]
  channels_eq := rfl
  bounded := by
    intro free _ member
    cases List.mem_singleton.mp member
    exact input.free_lt
  inner := by simp

theorem Grows.silent (same : next.residue = input.residue) (channels_ : next.channels = input.channels)
    (silent : ∀ event ∈ events, (∃ notification, event = .notified notification) ∨
      ∃ reinit, event = .checked reinit) : Grows input next events where
  residue_eq := by
    have nothing : events.flatMap (stored input.channels) = [] := by
      apply List.flatMap_eq_nil_iff.mpr
      intro event member
      rcases silent event member with ⟨_, rfl⟩ | ⟨_, rfl⟩ <;> rfl
    rw [same, nothing, List.append_nil]
  channels_eq := channels_
  bounded := by
    intro free packet member
    rcases silent _ member with ⟨_, other⟩ | ⟨_, other⟩ <;> cases other
  inner := by
    intro call member
    rcases silent _ member with ⟨_, other⟩ | ⟨_, other⟩ <;> cases other

theorem grows_tracks : Tracks (@Grows Sample _) where
  refl := .refl
  trans := .trans
  append := append_grows
  check := fun _ => .silent rfl rfl (by simp)
  notify := fun _ _ => .silent rfl rfl (by simp)

omit [Zero Sample] in
theorem copied_eq {request : Request Sample} (enough : request.sampleOut.length ≤ next.bufferPos) :
    overwrite request.sampleOut 0 (next.buffer.take request.sampleOut.length) =
      next.residue.take request.sampleOut.length := by
  have inside := next.inside
  have length : (next.buffer.take request.sampleOut.length).length = request.sampleOut.length := by
    rw [List.length_take]
    omega
  rw [overwrite, length, Nat.zero_add, List.drop_length, residue, List.take_take, Nat.min_eq_left enough]
  simp

theorem sample_streams {request : Request Sample} {refills : List (Refill Sample)}
    {call : Returned Sample} (ran : input.sample request refills = some (call, final, events)) :
    (events ++ [Event.returned call]).flatMap output ++ final.residue =
        input.residue ++ (events ++ [Event.returned call]).flatMap (stored input.channels) ∧
      final.channels = input.channels ∧ Kept call ∧ (∀ other, .returned other ∉ events) ∧
      ∀ free packet, .captured free packet ∈ events → free < UInt32.size := by
  obtain ⟨result, next, filled, outcome⟩ := sample_cases ran
  have grows := grows_tracks.refill filled
  have nothing (event : Event Sample) : (events ++ [event]).flatMap output = output event := by
    simp [grows.output_nil]
  have same : (events ++ [Event.returned call]).flatMap (stored input.channels) =
      events.flatMap (stored input.channels) := by
    simp [stored]
  rw [nothing, same, ← grows.residue_eq]
  rcases outcome with ⟨rfl, rfl, rfl⟩ | ⟨failed, rfl, rfl⟩
  · have written := copied_eq (refill_enough filled)
    refine ⟨?_, grows.channels_eq, fun other => absurd rfl other, grows.inner, grows.bounded⟩
    simp only [output, if_true]
    rw [shift_residue, written, List.take_append_drop]
  · exact ⟨by simp [output, failed], grows.channels_eq, fun _ => ⟨rfl, _, grows.residue_eq.symm⟩,
      grows.inner, grows.bounded⟩

structure Streams (channels : UInt8) (input : WasapiAudioInput Sample) (log : List (Event Sample)) :
    Prop where
  balance : log.flatMap output ++ input.residue = log.flatMap (stored channels)
  channels_eq : input.channels = channels
  kept : ∀ call, .returned call ∈ log → Kept call
  bounded : ∀ free packet, .captured free packet ∈ log → free < UInt32.size

theorem step_streams {action : Action Sample} (streams : Streams channels input log)
    (taken : input.step action = some (next, events)) : Streams channels next (log ++ events) := by
  have balance := streams.balance
  cases action with
  | notify notification =>
    cases taken
    exact
      { balance := by
          change _ ++ input.residue = _
          simpa [output, stored] using balance
        channels_eq := streams.channels_eq
        kept := fun call member => streams.kept call (by simpa using member)
        bounded := fun free packet member => streams.bounded free packet (by simpa using member) }
  | sample request refills =>
    simp only [step] at taken
    split at taken
    next call _ captured ran =>
      cases taken
      obtain ⟨here, same, kept, inner, bounded⟩ := sample_streams ran
      rw [streams.channels_eq] at here same
      exact
        { balance := by
            rw [List.flatMap_append, List.append_assoc, here, ← List.append_assoc, balance,
              ← List.flatMap_append]
          channels_eq := same
          kept := by
            intro other member
            simp only [List.mem_append, List.mem_singleton] at member
            rcases member with old | recent | last
            · exact streams.kept other old
            · exact absurd recent (inner other)
            · cases last
              exact kept
          bounded := by
            intro free packet member
            rcases List.mem_append.mp member with old | recent
            · exact streams.bounded free packet old
            · exact bounded free packet (by simpa using recent) }
    next => cases taken

theorem run_streams {size : UInt32} {actions : List (Action Sample)}
    (ran : Machine.run step (start channels size) actions = some (final, log)) :
    Streams channels final log := by
  have initial : Streams channels (start channels size : WasapiAudioInput Sample) [] :=
    { balance := rfl
      channels_eq := rfl
      kept := by simp
      bounded := by simp }
  have kept := Machine.run_preserves (Streams channels)
    (fun _ _ _ _ _ (_ : True) streams taken => step_streams streams taken)
    [] (fun _ _ => trivial) initial ran
  simpa using kept

theorem flatMap_length_le {A B : Type} {pieces expected : A → List B} {items : List A}
    (short : ∀ item ∈ items, (pieces item).length ≤ (expected item).length) :
    (items.flatMap pieces).length ≤ (items.flatMap expected).length := by
  induction items with
  | nil => exact Nat.le_refl _
  | cons item rest ih =>
    have first := short item (by simp)
    have others := ih fun other member => short other (by simp [member])
    simp only [List.flatMap_cons, List.length_append]
    omega

theorem flatMap_eq_iff {A B : Type} {pieces expected : A → List B} {items : List A}
    (short : ∀ item ∈ items, (pieces item).length ≤ (expected item).length) :
    items.flatMap pieces = items.flatMap expected ↔ ∀ item ∈ items, pieces item = expected item := by
  induction items with
  | nil => simp
  | cons item rest ih =>
    have first := short item (by simp)
    have others := ih fun other member => short other (by simp [member])
    have total := flatMap_length_le fun other (member : other ∈ rest) => short other (by simp [member])
    simp only [List.flatMap_cons, List.forall_mem_cons, ← others]
    constructor
    · intro same
      have lengths := congrArg List.length same
      simp only [List.length_append] at lengths
      exact List.append_inj same (by omega)
    · rintro ⟨head, tail⟩
      rw [head, tail]

theorem due_eq (channels : UInt8) (free : Nat) (packet : Packet Sample) :
    due channels (.captured free packet) =
      packet.first (min free (packet.audioSampleSize.toNat * channels.toNat)) := by
  rw [due, contents, Packet.take_first, Nat.min_assoc, Nat.min_self]

theorem stored_short (channels : UInt8) (event : Event Sample) :
    (stored channels event).length ≤ (due channels event).length := by
  cases event with
  | captured free packet =>
    have reduced := Nat.mod_le (packet.audioSampleSize.toNat * channels.toNat) UInt32.size
    rw [due_eq, stored, Packet.first_length, Packet.first_length]
    omega
  | notified | checked | returned => exact Nat.le_refl _

theorem stored_due_iff {free : Nat} (bounded : free < UInt32.size) (packet : Packet Sample) :
    stored channels (.captured free packet) = due channels (.captured free packet) ↔
      Counted channels free packet := by
  rw [due_eq, stored, Counted]
  generalize packet.audioSampleSize.toNat * channels.toNat = product
  have reduced := Nat.mod_le product UInt32.size
  constructor
  · intro same
    have lengths := congrArg List.length same
    simp only [Packet.first_length] at lengths
    omega
  · intro counted
    have same : min free (product % UInt32.size) = min free product := by
      rcases counted with small | room
      · rw [Nat.mod_eq_of_lt small]
      · omega
    rw [same]

def whole (channels : UInt8) : Event Sample → List Sample
  | .captured _ packet => contents channels packet
  | _ => []

theorem sample_reblocks_iff (channels : UInt8) (size : UInt32) (actions : List (Action Sample))
    (final : WasapiAudioInput Sample) (log : List (Event Sample))
    (ran : Machine.run step (start channels size) actions = some (final, log)) :
    ((log.flatMap output ++ final.residue = log.flatMap (due channels) ∧
        ∀ call, .returned call ∈ log → Kept call) ↔
      ∀ free packet, .captured free packet ∈ log → Counted channels free packet) ∧
    ((∀ free packet, .captured free packet ∈ log →
        packet.audioSampleSize.toNat * channels.toNat ≤ free) →
      log.flatMap output ++ final.residue = log.flatMap (whole channels)) := by
  have streams := run_streams ran
  have exactly : log.flatMap output ++ final.residue = log.flatMap (due channels) ↔
      ∀ free packet, .captured free packet ∈ log → Counted channels free packet := by
    rw [streams.balance, flatMap_eq_iff fun event _ => stored_short channels event]
    constructor
    · intro same free packet member
      exact (stored_due_iff (streams.bounded free packet member) packet).mp (same _ member)
    · intro counted event member
      cases event with
      | captured free packet =>
        exact (stored_due_iff (streams.bounded free packet member) packet).mpr
          (counted free packet member)
      | notified | checked | returned => rfl
  refine ⟨⟨fun both => exactly.mp both.1, fun counted => ⟨exactly.mpr counted, streams.kept⟩⟩, ?_⟩
  intro roomy
  have counted : ∀ free packet, .captured free packet ∈ log → Counted channels free packet := by
    intro free packet member
    exact .inl (Nat.lt_of_le_of_lt (roomy free packet member) (streams.bounded free packet member))
  rw [exactly.mpr counted]
  apply List.flatMap_congr
  intro event member
  cases event with
  | captured free packet => rw [due_eq, whole, contents, Nat.min_eq_right (roomy free packet member)]
  | notified | checked | returned => rfl

def stereoCall : List (Action Float32) :=
  [.sample ⟨[9, 9, 9], by decide⟩ [⟨[], WAIT_OBJECT_0,
    [⟨(S_OK, 2), (S_OK, ⟨2, false, Float32.ofNat⟩)⟩, ⟨(S_OK, 0), (S_OK, ⟨0, true, Float32.ofNat⟩)⟩]⟩]]

theorem sample_reblocks_iff_stereo :
    ∃ (final : WasapiAudioInput Float32) (log : List (Event Float32)),
      Machine.run step (start 2 4) stereoCall = some (final, log) ∧
      (log.flatMap output, final.residue) = ([0, 1, 2], [3]) ∧
      ((log.flatMap output ++ final.residue = log.flatMap (due 2) ∧
          ∀ call, .returned call ∈ log → Kept call) ↔
        ∀ free packet, .captured free packet ∈ log → Counted 2 free packet) :=
  let final : WasapiAudioInput Float32 := ⟨[3, 1, 2, 3], 1, 2, ⟨false⟩, by decide, by decide⟩
  let log : List (Event Float32) :=
    [.checked false, .captured 4 ⟨2, false, Float32.ofNat⟩, .returned ⟨.OK, [9, 9, 9], [0, 1, 2], [], [3]⟩]
  have ran : Machine.run step (start 2 4) stereoCall = some (final, log) := rfl
  ⟨final, log, ran, rfl, (sample_reblocks_iff 2 4 stereoCall final log ran).1⟩

-- 2 ^ 29 frames of eight channels: the product is 0, and nothing of the packet is kept. The device may
-- well deliver them: its buffer has one frame more, which makes buffer_ 16 samples long.
def hugeCall : List (Action Float32) :=
  [.sample ⟨[9, 9], by decide⟩ [⟨[], WAIT_OBJECT_0,
    [⟨(S_OK, 1), (S_OK, ⟨0x20000000, true, Float32.ofNat⟩)⟩,
      ⟨(AUDCLNT_E_DEVICE_INVALIDATED, 0), (S_OK, ⟨0, true, Float32.ofNat⟩)⟩]⟩]]

theorem sample_loses_huge_packet :
    ¬∀ (channels : UInt8) (size : UInt32) (actions : List (Action Float32))
        (final : WasapiAudioInput Float32) (log : List (Event Float32)),
      Machine.run step (start channels size) actions = some (final, log) →
      log.flatMap output ++ final.residue = log.flatMap (due channels) := by
  intro always
  have sized : bufferSize 0x20000001 480 8 = 16 := by decide
  have ran : Machine.run step (start 8 16) hugeCall =
      some (start 8 16,
        [.checked false, .captured 16 ⟨0x20000000, true, Float32.ofNat⟩,
          .returned ⟨.Reinit, [9, 9], [9, 9], [], []⟩]) := rfl
  have lengths := congrArg List.length (always 8 (bufferSize 0x20000001 480 8) hugeCall _ _ (sized ▸ ran))
  simp [output, due, residue, contents, start] at lengths

end Pirks.Audio.WasapiAudioInput
