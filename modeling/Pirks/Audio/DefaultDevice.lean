import Pirks.Audio.WasapiCapture

set_option autoImplicit false

namespace Pirks.Audio.WasapiAudioInput

variable {Sample : Type}

structure Check where
  reinit : Bool
  flows : List EDataFlow

def checksAfter (flows : List EDataFlow) : List (Event Sample) → List Check
  | [] => []
  | .notified notification :: rest => checksAfter (flows ++ [notification.flow]) rest
  | .checked reinit :: rest => ⟨reinit, flows⟩ :: checksAfter [] rest
  | .captured _ _ :: rest | .returned _ :: rest => checksAfter flows rest

def checks (log : List (Event Sample)) : List Check := checksAfter [] log

def latch : Bool → Event Sample → Option Bool
  | changed, .notified notification => some (changed || decide (notification.flow = .eRender))
  | changed, .checked reinit => if reinit = changed then some false else none
  | changed, .captured _ _ | changed, .returned _ => some changed

theorem checks_answer {log : List (Event Sample)} {changed final : Bool} (flows : List EDataFlow)
    (followed : log.foldlM latch changed = some final) (since : changed = true ↔ .eRender ∈ flows) :
    ∀ check ∈ checksAfter flows log, check.reinit = true ↔ .eRender ∈ check.flows := by
  induction log generalizing changed flows with
  | nil => simp [checksAfter]
  | cons event rest ih =>
    rw [List.foldlM_cons] at followed
    cases event with
    | notified notification =>
      apply ih _ followed
      simp [since, @eq_comm _ EDataFlow.eRender]
    | checked reinit =>
      by_cases same : reinit = changed
      · subst same
        have later := ih [] (by simpa [latch] using followed) (by simp)
        simpa [checksAfter, since] using later
      · simp [latch, same] at followed
    | captured free packet => exact ih flows followed since
    | returned call => exact ih flows followed since

section Runs

variable [Zero Sample] {input next final : WasapiAudioInput Sample} {events later log : List (Event Sample)}

def Latched (input final : WasapiAudioInput Sample) (events : List (Event Sample)) : Prop :=
  events.foldlM latch input.audioNotification.defaultDeviceChanged =
    some final.audioNotification.defaultDeviceChanged

omit [Zero Sample] in
theorem Latched.trans (first : Latched input next events) (second : Latched next final later) :
    Latched input final (events ++ later) := by
  unfold Latched at first second ⊢
  rw [List.foldlM_append, first]
  exact second

theorem latched_tracks : Tracks (@Latched Sample) where
  refl := fun _ => rfl
  trans := .trans
  append := fun _ _ => rfl
  check := fun input => by
    simp [Latched, latch, checked, AudioNotificationImpl.checkDefaultDeviceChanged]
  notify := fun input notification => by
    simp [Latched, latch, notify, AudioNotificationImpl.onDefaultDeviceChanged_latch]

theorem step_latched {action : Action Sample} (taken : input.step action = some (next, events)) :
    Latched input next events := by
  cases action with
  | notify notification =>
    cases taken
    exact latched_tracks.notify input notification
  | sample request refills =>
    simp only [step] at taken
    split at taken
    next ran =>
      cases taken
      obtain ⟨result, reached, filled, outcome⟩ := sample_cases ran
      have inner := latched_tracks.refill filled
      rcases outcome with ⟨-, rfl, -⟩ | ⟨-, rfl, -⟩ <;> exact inner.trans rfl
    next => cases taken

theorem run_latched {actions : List (Action Sample)}
    (ran : Machine.run step input actions = some (final, log)) : Latched input final log := by
  have kept := Machine.run_preserves (fun reached past => Latched input reached past)
    (fun _ _ _ _ _ (_ : True) latched taken => latched.trans (step_latched taken))
    [] (fun _ _ => trivial) rfl ran
  simpa using kept

-- The endpoint is opened for eCapture, and the callback latches eRender.
theorem default_device_reported_iff (channels : UInt8) (size : UInt32) (actions : List (Action Sample))
    (final : WasapiAudioInput Sample) (log : List (Event Sample))
    (ran : Machine.run step (start channels size) actions = some (final, log)) :
    (∀ check ∈ checks log, check.reinit = true ↔ .eCapture ∈ check.flows) ↔
      ∀ check ∈ checks log, .eRender ∈ check.flows ↔ .eCapture ∈ check.flows := by
  have followed : log.foldlM latch false = some _ := run_latched ran
  have answers := checks_answer [] followed (by simp)
  apply forall₂_congr
  intro check member
  rw [answers check member]

end Runs

def bothChanged : List (Action Float32) :=
  [.notify ⟨.eRender, .eMultimedia, "speakers"⟩, .notify ⟨.eCapture, .eMultimedia, "headset"⟩,
    .sample ⟨[9], by decide⟩ [⟨[], WAIT_TIMEOUT, []⟩]]

theorem default_device_reported_iff_both :
    ∃ (final : WasapiAudioInput Float32) (log : List (Event Float32)),
      Machine.run step (start 2 4) bothChanged = some (final, log) ∧
      ((∀ check ∈ checks log, check.reinit = true ↔ .eCapture ∈ check.flows) ↔
        ∀ check ∈ checks log, .eRender ∈ check.flows ↔ .eCapture ∈ check.flows) :=
  let final : WasapiAudioInput Float32 := start 2 4
  let log : List (Event Float32) :=
    [.notified ⟨.eRender, .eMultimedia, "speakers"⟩, .notified ⟨.eCapture, .eMultimedia, "headset"⟩,
      .checked true, .returned ⟨.Reinit, [9], [9], [], []⟩]
  have ran : Machine.run step (start 2 4) bothChanged = some (final, log) := rfl
  ⟨final, log, ran, default_device_reported_iff 2 4 bothChanged final log ran⟩

theorem default_device_change_missed :
    ¬∀ (channels : UInt8) (size : UInt32) (actions : List (Action Float32))
        (final : WasapiAudioInput Float32) (log : List (Event Float32)),
      Machine.run step (start channels size) actions = some (final, log) →
      ∀ check ∈ checks log, check.reinit = true ↔ .eCapture ∈ check.flows := by
  intro always
  have ran : Machine.run step (start 2 4)
      [.notify ⟨.eCapture, .eMultimedia, "headset"⟩, .sample ⟨[9], by decide⟩ [⟨[], WAIT_TIMEOUT, []⟩]] =
      some ((start 2 4 : WasapiAudioInput Float32),
        [.notified ⟨.eCapture, .eMultimedia, "headset"⟩, .checked false,
          .returned ⟨.Timeout, [9], [9], [], []⟩]) := rfl
  have reported := always 2 4 _ _ _ ran ⟨false, [.eCapture]⟩ (.head _)
  exact absurd (reported.mpr (.head _)) (by decide)

end Pirks.Audio.WasapiAudioInput
