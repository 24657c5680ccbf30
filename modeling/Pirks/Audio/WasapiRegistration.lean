import Mathlib.Tactic.Common
import Pirks.Audio.WasapiLifetime

set_option autoImplicit false

namespace Pirks.Audio.WasapiObject

open Execution PlatformWindows

-- CloseHandle by the wrapper and AvRevertMmThreadCharacteristics both dispose of a task handle.
def Disposes (handle : HANDLE) (effect : Effect) : Bool :=
  effect = .taskReverted handle || effect = .closeHandle .mmcssTaskHandle handle

def Balanced (effects : List Effect) : Prop :=
  effects.count .registered = effects.count .unregistered ∧
    ∀ handle, handle ≠ nullptr → effects.count (.taskStarted handle) = effects.countP (Disposes handle)

def Listens (os : Os) : Prop :=
  os.createEvent ≠ INVALID_HANDLE_VALUE ∧ FAILED os.registerEndpointNotificationCallback = false

def Opens (os : Os) (position : Nat) : Prop :=
  FAILED (os.activate position) = false ∧ FAILED (os.getMixFormat position) = false ∧
    os.initialize_ position = S_OK

def Accepts (os : Os) (channels : UInt8) (position : Nat) (format : AudioFormat) : Prop :=
  format.channelCount = channels ∧ Opens os position

def FindsFormat (os : Os) (formats : List AudioFormat) (channels : UInt8) : Prop :=
  ∃ position format, formats[position]? = some format ∧ Accepts os channels position format

def Allocates (os : Os) (channels : UInt8) (frameSize : UInt32) : Prop :=
  FAILED os.getBufferSize.1 = false ∧
    os.allocates (WasapiAudioInput.bufferSize os.getBufferSize.2 frameSize channels) = true

def Captures (os : Os) : Prop :=
  FAILED os.getService = false ∧ FAILED os.setEventHandle = false ∧
    os.avSetMmThreadCharacteristics ≠ INVALID_HANDLE_VALUE ∧ FAILED os.start = false

def Proceeds (os : Os) (formats : List AudioFormat) (channels : UInt8) (frameSize : UInt32)
    (device : Option Nat) : Prop :=
  (device.isSome ∧ FindsFormat os formats channels) ∧ Allocates os channels frameSize ∧ Captures os

def Retains (effects : List Effect) : Prop := effects.count .unregistered < effects.count .registered

def Registers (os : Os) : Prop := FAILED os.coCreateInstance = false ∧ Listens os

@[simp]
theorem perform_ensure (holds : Bool) (error : Exception) (object : WasapiObject) :
    perform (ensure holds error) object = if holds then (.ok (), object) else (.error error, object) := by
  cases holds <;> rfl

@[simp]
theorem perform_ensureSucceeded (status : HRESULT) (what : String) (object : WasapiObject) :
    perform (ensureSucceeded status what) object =
      if FAILED status then (.error ⟨literal what, some status.toInt⟩, object) else (.ok (), object) := by
  cases failed : FAILED status <;> simp [ensureSucceeded, failed]

@[simp]
theorem perform_emit (effects : List Effect) (object : WasapiObject) :
    perform (emit effects) object = (.ok (), { object with effects := object.effects ++ effects }) := rfl

theorem perform_assignAudioEvent {object : WasapiObject} (fresh : object.audioEvent = .default WinHandle)
    (handle : HANDLE) :
    perform (assignAudioEvent handle) object = (.ok (), { object with audioEvent := ⟨handle⟩ }) := by
  simp [assignAudioEvent, perform_bind, fresh, UniqueHandle.moveAssign, UniqueHandle.reset_calls,
    UniqueHandle.default, WinHandle.closer_invalid]

theorem perform_assignMmcssTaskHandle {object : WasapiObject}
    (fresh : object.mmcssTaskHandle = .default WinHandle) (handle : HANDLE) :
    perform (assignMmcssTaskHandle handle) object =
      (.ok (), { object with mmcssTaskHandle := ⟨handle⟩ }) := by
  simp [assignMmcssTaskHandle, perform_bind, fresh, UniqueHandle.moveAssign, UniqueHandle.reset_calls,
    UniqueHandle.default, WinHandle.closer_invalid]

theorem valid_iff (handle : HANDLE) :
    (UniqueHandle.mk handle).valid WinHandle = true ↔ handle ≠ INVALID_HANDLE_VALUE := by
  unfold UniqueHandle.valid
  exact decide_eq_true_iff

/-- A stage of construction that succeeds exactly when `Succeeds` holds, and that neither registers
anything nor touches the task. -/
def Quiet (stage : Construct Unit) (object : WasapiObject) (Succeeds : Prop) : Prop :=
  ∃ result after, perform stage object = (result, after) ∧ (result = .ok () ↔ Succeeds) ∧
    after.effects = object.effects ∧ after.mmcssTaskHandle = object.mmcssTaskHandle ∧
    after.channels = object.channels

theorem Quiet.followed_by {stage : Construct Unit} {object : WasapiObject} {Succeeds : Prop}
    (quiet : Quiet stage object Succeeds) (rest : Construct Unit) :
    ∃ after, after.effects = object.effects ∧ after.mmcssTaskHandle = object.mmcssTaskHandle ∧
      after.channels = object.channels ∧
      ((Succeeds ∧ perform (stage >>= fun _ => rest) object = perform rest after) ∨
        (¬Succeeds ∧ ∃ error, perform (stage >>= fun _ => rest) object = (.error error, after))) := by
  obtain ⟨result, after, ran, succeeds, effects, task, channels⟩ := quiet
  refine ⟨after, effects, task, channels, ?_⟩
  rw [perform_bind, ran]
  cases result with
  | ok _ => exact .inl ⟨succeeds.mp rfl, rfl⟩
  | error error => exact .inr ⟨fun holds => by simpa using succeeds.mpr holds, error, rfl⟩

theorem audioClientPtr_ok_iff (os : Os) (position : Nat) (format : AudioFormat) :
    audioClientPtr os position format = .ok () ↔ Opens os position := by
  unfold audioClientPtr Opens
  cases activated : FAILED (os.activate position) <;> cases mixed : FAILED (os.getMixFormat position) <;>
    by_cases ready : os.initialize_ position = S_OK <;>
    simp [activated, mixed, ready, throw, throwThe, MonadExceptOf.throw, pure, Except.pure]

theorem accepted_cons {Accepts : Nat → AudioFormat → Prop} (position : Nat) (format : AudioFormat)
    (rest : List AudioFormat) :
    (∃ index other, (format :: rest)[index]? = some other ∧ Accepts (position + index) other) ↔
      Accepts position format ∨
        ∃ index other, rest[index]? = some other ∧ Accepts (position + 1 + index) other := by
  constructor
  · rintro ⟨_ | index, other, found, accepts⟩
    · cases found
      exact .inl accepts
    · exact .inr ⟨index, other, found, by rwa [Nat.add_assoc, Nat.add_comm 1]⟩
  · rintro (accepts | ⟨index, other, found, accepts⟩)
    · exact ⟨0, format, rfl, accepts⟩
    · exact ⟨index + 1, other, found, by rwa [Nat.add_comm index, ← Nat.add_assoc]⟩

theorem perform_tryFormats (os : Os) (position : Nat) (formats : List AudioFormat) (object : WasapiObject) :
    ∃ client, perform (tryFormats os position formats) object =
        (.ok (), { object with audioClient := client }) ∧
      ((client = object.audioClient ∧ ¬∃ index format, formats[index]? = some format ∧
          Accepts os object.channels (position + index) format) ∨
        ∃ index format, formats[index]? = some format ∧
          Accepts os object.channels (position + index) format ∧ client = some format) := by
  induction formats generalizing position with
  | nil => exact ⟨object.audioClient, rfl, .inl ⟨rfl, by simp⟩⟩
  | cons format rest ih =>
    obtain ⟨client, followed, opened⟩ := ih (position + 1)
    by_cases accepts : Accepts os object.channels position format
    · have tried := (audioClientPtr_ok_iff os position format).mpr accepts.2
      refine ⟨some format, ?_, .inr ⟨0, format, rfl, accepts, rfl⟩⟩
      simp [tryFormats, perform_bind, accepts.1, tried]
    · refine ⟨client, ?_, ?_⟩
      · by_cases matches_ : format.channelCount = object.channels
        · cases tried : audioClientPtr os position format with
          | ok _ => exact absurd ⟨matches_, (audioClientPtr_ok_iff os position format).mp tried⟩ accepts
          | error error => simpa [tryFormats, perform_bind, matches_, tried] using followed
        · simpa [tryFormats, perform_bind, matches_] using followed
      · rw [accepted_cons, @accepted_cons (fun position other =>
          Accepts os object.channels position other ∧ client = some other)]
        simpa [accepts] using opened

theorem openClient_cases (os : Os) (formats : List AudioFormat) (device : Option Nat) (missing : StdString)
    {object : WasapiObject} (fresh : object.audioClient = none) :
    (device.isSome ∧ ∃ position format, formats[position]? = some format ∧
      Accepts os object.channels position format ∧ perform (openClient os formats device missing) object =
        (.ok (), { object with device, audioClient := some format })) ∨
    (¬(device.isSome ∧ FindsFormat os formats object.channels) ∧ ∃ error,
      perform (openClient os formats device missing) object =
        (.error error, { object with device })) := by
  obtain ⟨client, tried, ⟨closed, refused⟩ | ⟨index, format, found, accepts, opened⟩⟩ :=
    perform_tryFormats os 0 formats { object with device }
  · refine .inr ⟨fun ⟨_, finds⟩ => refused (by simpa [FindsFormat] using finds), ?_⟩
    cases device <;> simp_all [openClient, perform_bind]
  · rw [Nat.zero_add] at accepts
    cases device with
    | none => exact .inr ⟨by simp, _, by simp [openClient, perform_bind]; rfl⟩
    | some device =>
      exact .inl ⟨rfl, index, format, found, accepts, by simp [openClient, perform_bind, tried, opened]⟩

theorem openClient_quiet (os : Os) (formats : List AudioFormat) (device : Option Nat) (missing : StdString)
    {object : WasapiObject} (fresh : object.audioClient = none) :
    Quiet (openClient os formats device missing) object
      (device.isSome ∧ FindsFormat os formats object.channels) := by
  obtain ⟨present, position, format, found, accepts, ran⟩ | ⟨refused, error, thrown⟩ :=
    openClient_cases os formats device missing fresh
  · have finds : FindsFormat os formats object.channels := ⟨position, format, found, accepts⟩
    exact ⟨_, _, ran, by simp [present, finds], rfl, rfl, rfl⟩
  · exact ⟨_, _, thrown, by simp [refused], rfl, rfl, rfl⟩

theorem prepareBuffer_quiet (os : Os) (frameSize : UInt32) (object : WasapiObject) :
    Quiet (prepareBuffer os frameSize) object (Allocates os object.channels frameSize) := by
  unfold Quiet Allocates
  cases sized : FAILED os.getBufferSize.1 <;>
    cases allocated : os.allocates (WasapiAudioInput.bufferSize os.getBufferSize.2 frameSize object.channels) <;>
    simp [prepareBuffer, perform_bind, sized, allocated]

theorem queries_itself : FAILED (AudioNotificationImpl.queryInterface .IMMNotificationClient) = false := by
  decide

theorem registerNotifications_cases (os : Os) {object : WasapiObject}
    (fresh : object.audioEvent = .default WinHandle) :
    (Listens os ∧ perform (registerNotifications os) object = (.ok (), { object with
      audioEvent := ⟨os.createEvent⟩
      effects := object.effects ++ [.registered] })) ∨
    (¬Listens os ∧ ∃ error, perform (registerNotifications os) object =
      (.error error, { object with audioEvent := ⟨os.createEvent⟩ })) := by
  by_cases valid : os.createEvent = INVALID_HANDLE_VALUE
  · have refused : (UniqueHandle.mk os.createEvent).valid WinHandle = false := by
      rw [← Bool.not_eq_true, valid_iff]
      simpa using valid
    refine .inr ⟨fun listens => listens.1 valid, ⟨literal "Unable to create Event handle", none⟩, ?_⟩
    simp [registerNotifications, perform_bind, perform_assignAudioEvent fresh, refused]
  · have accepted := (valid_iff os.createEvent).mpr valid
    cases registered : FAILED os.registerEndpointNotificationCallback with
    | true =>
      refine .inr ⟨by simp [Listens, registered], ?_⟩
      simp [registerNotifications, perform_bind, perform_assignAudioEvent fresh, accepted,
        queries_itself, registered]
    | false =>
      refine .inl ⟨⟨valid, registered⟩, ?_⟩
      simp [registerNotifications, perform_bind, perform_assignAudioEvent fresh, accepted,
        queries_itself, registered]

theorem startCapture_cases (os : Os) {object : WasapiObject}
    (fresh : object.mmcssTaskHandle = .default WinHandle) :
    (Captures os ∧ perform (startCapture os) object = (.ok (), { object with
      mmcssTaskHandle := ⟨os.avSetMmThreadCharacteristics⟩
      effects := object.effects ++ started os.avSetMmThreadCharacteristics })) ∨
    (¬Captures os ∧ ∃ error after tasks, perform (startCapture os) object = (.error error, after) ∧
      after.effects = object.effects ++ tasks ∧ .unregistered ∉ tasks) := by
  unfold Captures
  have silent : .unregistered ∉ started os.avSetMmThreadCharacteristics := by
    unfold started
    split <;> simp
  cases serviced : FAILED os.getService with
  | true =>
    refine .inr ⟨by simp, ?_⟩
    simp [startCapture, perform_bind, serviced]
  | false =>
  cases handed : FAILED os.setEventHandle with
  | true =>
    refine .inr ⟨by simp, ?_⟩
    simp [startCapture, perform_bind, serviced, handed]
  | false =>
  by_cases valid : os.avSetMmThreadCharacteristics = INVALID_HANDLE_VALUE
  · have refused : (UniqueHandle.mk os.avSetMmThreadCharacteristics).valid WinHandle = false := by
      rw [← Bool.not_eq_true, valid_iff]
      simpa using valid
    refine .inr ⟨by simp [valid], ?_⟩
    simpa [startCapture, perform_bind, perform_assignMmcssTaskHandle, fresh, serviced, handed,
      refused] using silent
  · have accepted := (valid_iff os.avSetMmThreadCharacteristics).mpr valid
    cases begun : FAILED os.start with
    | true =>
      refine .inr ⟨by simp, ?_⟩
      simpa [startCapture, perform_bind, perform_assignMmcssTaskHandle, fresh, serviced, handed,
        accepted, begun] using silent
    | false =>
      refine .inl ⟨⟨rfl, rfl, valid, rfl⟩, ?_⟩
      simp [startCapture, perform_bind, perform_assignMmcssTaskHandle, fresh, serviced, handed,
        accepted, begun]

theorem constructFor_registered (os : Os) (formats : List AudioFormat) (channels : UInt8) (frameSize : UInt32)
    (device : Option Nat) (missing : StdString) (listens : Listens os) :
    (Proceeds os formats channels frameSize device ∧ ∃ object,
      perform (constructFor os formats frameSize device missing) (initial channels) = (.ok (), object) ∧
        object.effects = .registered :: started os.avSetMmThreadCharacteristics ∧
        object.mmcssTaskHandle = ⟨os.avSetMmThreadCharacteristics⟩) ∨
    (¬Proceeds os formats channels frameSize device ∧ ∃ error object tasks,
      perform (constructFor os formats frameSize device missing) (initial channels) = (.error error, object) ∧
        object.effects = .registered :: tasks ∧ .unregistered ∉ tasks) := by
  have fresh : (initial channels).audioEvent = .default WinHandle := rfl
  obtain ⟨_, registered⟩ | ⟨silent, _⟩ := registerNotifications_cases os fresh
  case inr => exact absurd listens silent
  unfold constructFor Proceeds
  rw [perform_bind, registered]
  have unopened : ({ initial channels with
      audioEvent := ⟨os.createEvent⟩
      effects := (initial channels).effects ++ [.registered] } : WasapiObject).audioClient = none := rfl
  obtain ⟨opened, openedEffects, openedTask, openedChannels, found | missed⟩ :=
    (openClient_quiet os formats device missing unopened).followed_by
      (do prepareBuffer os frameSize; startCapture os)
  case inr =>
    obtain ⟨absent, error, thrown⟩ := missed
    exact .inr ⟨fun proceeds => absent proceeds.1, error, opened, [], thrown, openedEffects,
      List.not_mem_nil⟩
  obtain ⟨present, found⟩ := found
  obtain ⟨prepared, preparedEffects, preparedTask, _, enough | short⟩ :=
    (prepareBuffer_quiet os frameSize opened).followed_by (startCapture os)
  case inr =>
    obtain ⟨refused, error, thrown⟩ := short
    rw [openedChannels] at refused
    exact .inr ⟨fun proceeds => refused proceeds.2.1, error, prepared, [], found.trans thrown,
      preparedEffects.trans openedEffects, List.not_mem_nil⟩
  obtain ⟨allocated, enough⟩ := enough
  rw [openedChannels] at allocated
  have effects : prepared.effects = [.registered] := preparedEffects.trans openedEffects
  obtain ⟨captures, ran⟩ | ⟨fails, error, after, tasks, thrown, added, silent⟩ :=
    startCapture_cases os (preparedTask.trans openedTask)
  case inr =>
    exact .inr ⟨fun proceeds => fails proceeds.2.2, error, after, tasks, (found.trans enough).trans thrown,
      by simpa [effects] using added, silent⟩
  exact .inl ⟨⟨present, allocated, captures⟩, _, (found.trans enough).trans ran, by simp [effects], rfl⟩

theorem constructFor_unregistered (os : Os) (formats : List AudioFormat) (channels : UInt8)
    (frameSize : UInt32) (device : Option Nat) (missing : StdString) (silent : ¬Listens os) :
    ∃ error object, perform (constructFor os formats frameSize device missing) (initial channels) =
      (.error error, object) ∧ object.effects = [] ∧ object.mmcssTaskHandle = .default WinHandle := by
  have fresh : (initial channels).audioEvent = .default WinHandle := rfl
  obtain ⟨listens, _⟩ | ⟨_, error, thrown⟩ := registerNotifications_cases os fresh
  case inl => exact absurd listens silent
  exact ⟨error, _, by rw [constructFor, perform_bind, thrown], rfl, rfl⟩

theorem destroyMembers_closes {self : WasapiObject} {effect : Effect} (member : effect ∈ self.destroyMembers) :
    ∃ owner handle, effect = .closeHandle owner handle := by
  unfold destroyMembers at member
  rcases List.mem_append.mp member with closed | closed
  all_goals
    obtain ⟨handle, _, rfl⟩ := List.mem_map.mp closed
    exact ⟨_, handle, rfl⟩

theorem destroyMembers_count (self : WasapiObject) (effect : Effect)
    (other : ∀ owner handle, effect ≠ .closeHandle owner handle) : self.destroyMembers.count effect = 0 := by
  rw [List.count_eq_zero]
  intro member
  obtain ⟨owner, handle, same⟩ := destroyMembers_closes member
  exact other owner handle same

theorem destroyMembers_disposes (self : WasapiObject) (handle : HANDLE) :
    self.destroyMembers.countP (Disposes handle) =
      (closeHandleDeleter self.mmcssTaskHandle.handle).count handle := by
  have task : self.mmcssTaskHandle.destroy WinHandle = closeHandleDeleter self.mmcssTaskHandle.handle :=
    self.mmcssTaskHandle.reset_calls WinHandle _
  have event : (self.audioEvent.destroy WinHandle).countP (Disposes handle ∘ Effect.closeHandle .audioEvent) = 0 := by
    rw [List.countP_eq_zero]
    simp [Disposes]
  rw [destroyMembers, List.countP_append, List.countP_map, List.countP_map, event, task, List.count]
  refine congrArg (· + 0) (List.countP_congr fun other _ => ?_)
  simp [Disposes]

theorem started_count (task : HANDLE) {handle : HANDLE} (real : handle ≠ nullptr) :
    (started task).count (.taskStarted handle) = if task = handle then 1 else 0 := by
  unfold started
  split
  next failed =>
    rw [if_neg fun same => real (same.symm.trans failed)]
    rfl
  next running => simp [List.count_singleton]

theorem started_quiet (task : HANDLE) {effect : Effect} (other : ∀ handle, effect ≠ .taskStarted handle) :
    (started task).count effect = 0 := by
  unfold started
  split
  next => rfl
  next => simp [Ne.symm (other task)]

-- A completed object reverts its task, and then the wrapper of the task closes the same handle.
theorem completed_balanced_iff {self : WasapiObject} {task : HANDLE} (held : self.mmcssTaskHandle = ⟨task⟩)
    (valid : task ≠ INVALID_HANDLE_VALUE) :
    Balanced (.registered :: started task ++ [.unregistered, .taskReverted task] ++ self.destroyMembers) ↔
      task = nullptr := by
  have undisposed (handle : HANDLE) : (started task).countP (Disposes handle) = 0 := by
    unfold started
    split <;> simp [Disposes]
  have registered := destroyMembers_count self .registered (by simp)
  have unregistered := destroyMembers_count self .unregistered (by simp)
  have startedOnce (handle : HANDLE) :=
    destroyMembers_count self (.taskStarted handle) (by simp)
  constructor
  · rintro ⟨_, matched⟩
    by_contra real
    have closes : closeHandleDeleter task = [task] := if_pos ⟨valid, real⟩
    have twice := matched task real
    simp [started_count task real, startedOnce, undisposed, destroyMembers_disposes, held, closes,
      Disposes] at twice
  · intro failed
    have closes : closeHandleDeleter task = [] := if_neg fun real => real.2 failed
    refine ⟨?_, fun handle real => ?_⟩
    · simp [started_quiet task, registered, unregistered]
    · have apart : task ≠ handle := fun same => real (same.symm.trans failed)
      simp [started_count task real, startedOnce, undisposed, destroyMembers_disposes, held, closes,
        Disposes, apart]

theorem constructFor_balanced_iff (os : Os) (formats : List AudioFormat) (channels : UInt8)
    (frameSize : UInt32) (device : Option Nat) (missing : StdString) :
    Balanced (lifetime os channels (constructFor os formats frameSize device missing)) ↔
      (Registers os → Proceeds os formats channels frameSize device ∧
        os.avSetMmThreadCharacteristics = nullptr) := by
  unfold lifetime
  cases created : FAILED os.coCreateInstance with
  | true => simp [Balanced, Registers, created]
  | false =>
  by_cases listens : Listens os
  case neg =>
    have quiet : ¬Registers os := fun registers => listens registers.2
    obtain ⟨error, object, thrown, effects, empty⟩ :=
      constructFor_unregistered os formats channels frameSize device missing listens
    have balanced : Balanced object.destroyMembers := by
      refine ⟨?_, fun handle _ => ?_⟩
      · rw [destroyMembers_count _ .registered (by simp), destroyMembers_count _ .unregistered (by simp)]
      · rw [destroyMembers_count _ (.taskStarted handle) (by simp), destroyMembers_disposes, empty]
        simp [UniqueHandle.default, closeHandleDeleter, WinHandle]
    simpa [thrown, effects, quiet] using balanced
  have registers : Registers os := ⟨created, listens⟩
  obtain ⟨proceeds, object, ran, effects, held⟩ | ⟨stops, error, object, tasks, thrown, effects, silent⟩ :=
    constructFor_registered os formats channels frameSize device missing listens
  · have valid := proceeds.2.2.2.2.1
    have ended : object.destructor =
        some [.unregistered, .taskReverted os.avSetMmThreadCharacteristics] := by
      simp [destructor, queries_itself, held, (valid_iff _).mpr valid]
    simp only [ran, ended, effects]
    simpa [registers, proceeds] using completed_balanced_iff held valid
  · simp only [thrown, effects]
    have unbalanced : ¬Balanced (.registered :: tasks ++ object.destroyMembers) := by
      rintro ⟨same, _⟩
      have never := destroyMembers_count object .unregistered (by simp)
      simp [List.count_append, never, List.count_eq_zero.mpr silent] at same
    simpa [registers, stops] using unbalanced

theorem constructFor_retains_iff {os : Os} {formats : List AudioFormat} {channels : UInt8}
    {frameSize : UInt32} {device : Option Nat} {missing : StdString} {error : Exception} {object : WasapiObject}
    (created : FAILED os.coCreateInstance = false)
    (thrown : perform (constructFor os formats frameSize device missing) (initial channels) =
      (.error error, object)) :
    Retains (lifetime os channels (constructFor os formats frameSize device missing)) ↔ Registers os := by
  have never := destroyMembers_count object .unregistered (by simp)
  have unmade := destroyMembers_count object .registered (by simp)
  unfold lifetime Retains Registers
  simp only [created, thrown]
  by_cases listens : Listens os
  · obtain ⟨_, _, ran, _⟩ | ⟨_, _, _, tasks, failed, effects, silent⟩ :=
      constructFor_registered os formats channels frameSize device missing listens
    · rw [thrown] at ran
      cases ran
    · rw [thrown] at failed
      cases failed
      simp [listens, effects, List.count_append, never, unmade, List.count_eq_zero.mpr silent]
  · obtain ⟨_, _, failed, effects, _⟩ :=
      constructFor_unregistered os formats channels frameSize device missing listens
    rw [thrown] at failed
    cases failed
    simp [listens, effects, never, unmade]

theorem chosenConstructor_eq (os : Os) (formats : List AudioFormat) (audioSource : StdString)
    (frameSize : UInt32) :
    ∃ device missing, chosenConstructor os formats audioSource frameSize =
      constructFor os formats frameSize device missing := by
  unfold chosenConstructor
  split
  · exact ⟨_, _, rfl⟩
  · exact ⟨_, _, rfl⟩

theorem create_retains_iff {os : Os} {formats : List AudioFormat} {audioSource : StdString}
    {channels : Int32} {frameSize : UInt32}
    (failed : create os formats audioSource channels frameSize = none) :
    Retains (lifetime os channels.toUInt32.toUInt8 (chosenConstructor os formats audioSource frameSize)) ↔
      Registers os := by
  obtain ⟨device, missing, chosen⟩ := chosenConstructor_eq os formats audioSource frameSize
  unfold create at failed
  rw [chosen] at failed ⊢
  cases created : FAILED os.coCreateInstance with
  | true => simp [Retains, lifetime, Registers, created]
  | false =>
    simp only [created, Bool.false_eq_true, if_false] at failed
    split at failed
    next ran => cases failed
    next error object thrown => exact constructFor_retains_iff created thrown

-- Balance fails on every exception after the registration, because ~WasapiAudioInput does not run
-- there, and on every completed object with a task, because the task is disposed of twice.
theorem construction_balanced_iff (os : Os) (formats : List AudioFormat) (audioSource : StdString)
    (channels : Int32) (frameSize : UInt32) :
    (Balanced (lifetime os channels.toUInt32.toUInt8 (construct os formats frameSize)) ↔
      (Registers os → Proceeds os formats channels.toUInt32.toUInt8 frameSize
        (DeviceEnumeratorPtr.getDefaultDevice os.getDefaultAudioEndpoint) ∧
          os.avSetMmThreadCharacteristics = nullptr)) ∧
    (Balanced (lifetime os channels.toUInt32.toUInt8 (constructNamed os formats frameSize audioSource)) ↔
      (Registers os → Proceeds os formats channels.toUInt32.toUInt8 frameSize
        (selectDeviceByName os audioSource) ∧ os.avSetMmThreadCharacteristics = nullptr)) ∧
    (create os formats audioSource channels frameSize = none →
      (Retains (lifetime os channels.toUInt32.toUInt8
        (chosenConstructor os formats audioSource frameSize)) ↔ Registers os)) :=
  ⟨constructFor_balanced_iff os formats _ frameSize _ _, constructFor_balanced_iff os formats _ frameSize _ _,
    create_retains_iff⟩

def withoutDevice : Os where
  coCreateInstance := S_OK
  createEvent := 8
  registerEndpointNotificationCallback := S_OK
  getDefaultAudioEndpoint := fun _ _ => ((0x80070490 : UInt32).toInt32, none)
  enumAudioEndpoints := fun _ => (S_OK, some [])
  activate := fun _ => S_OK
  getMixFormat := fun _ => S_OK
  initialize_ := fun _ => S_OK
  getDevicePeriod := (S_OK, 100000)
  getBufferSize := (S_OK, 1056)
  allocates := fun _ => true
  getService := S_OK
  setEventHandle := S_OK
  avSetMmThreadCharacteristics := 12
  getLastError := 0
  start := S_OK

theorem construction_unbalanced_without_device :
    create withoutDevice [⟨2, "Stereo"⟩] [] 2 480 = none ∧
      lifetime withoutDevice 2 (chosenConstructor withoutDevice [⟨2, "Stereo"⟩] [] 480) =
        [.registered, .closeHandle .audioEvent 8] ∧
      ¬Balanced (lifetime withoutDevice 2 (chosenConstructor withoutDevice [⟨2, "Stereo"⟩] [] 480)) := by
  have leaked : lifetime withoutDevice 2 (chosenConstructor withoutDevice [⟨2, "Stereo"⟩] [] 480) =
      [.registered, .closeHandle .audioEvent 8] := rfl
  refine ⟨rfl, leaked, ?_⟩
  rw [leaked]
  rintro ⟨same, _⟩
  exact absurd same (by decide)

end Pirks.Audio.WasapiObject
