import Pirks.Foundation.Machine

set_option autoImplicit false

namespace Pirks.Audio

/-- TPCircularBuffer, a git submodule: a FIFO of bytes. `TPCircularBufferTail` hands out the bytes that
are not consumed yet and their number, an uint32_t. -/
structure TPCircularBuffer where
  State : Type
  tail : State → List UInt8
  produceBytes : State → List UInt8 → State
  consume : State → UInt32 → State
  bounded : ∀ state, (tail state).length < UInt32.size
  -- nothing is stored when there is not enough room
  produced : ∀ state bytes, tail (produceBytes state bytes) = tail state ++ bytes ∨
    produceBytes state bytes = state
  consumed : ∀ state amount, amount.toNat ≤ (tail state).length →
    tail (consume state amount) = (tail state).drop amount.toNat

namespace MacAudioInput

inductive Phase where
  | idle
  | looking (sampleSize : UInt32)
  | testing (sampleSize length : UInt32)
  | short (sampleSize : UInt32)
  | waiting (sampleSize : UInt32) (signalled : Bool)
  | copying (sampleSize : UInt32)
  deriving DecidableEq

-- A signal without a waiter has no effect.
def Phase.signalled : Phase → Phase
  | .waiting sampleSize _ => .waiting sampleSize true
  | phase => phase

structure System (buffer : TPCircularBuffer) where
  audioSampleBuffer : buffer.State
  -- callbacks that have produced and not signalled yet
  producing : Nat
  phase : Phase
  -- what the last call copied to its vector
  sampleOut : List UInt8

inductive Action where
  | call (sampleSize : UInt32)
  | tail
  | test
  | wait
  | wake
  | consume
  | produceBytes (bytes : List UInt8)
  | signal
  deriving DecidableEq

structure Moved (buffer : TPCircularBuffer) where
  action : Action
  before : System buffer
  after : System buffer

-- sample_size * sizeof(float), a size_t
def bytesOf (sampleSize : UInt32) : Nat := sampleSize.toNat * 4

variable {buffer : TPCircularBuffer}

namespace System

def unread (system : System buffer) : List UInt8 := buffer.tail system.audioSampleBuffer

def start (state : buffer.State) : System buffer := ⟨state, 0, .idle, []⟩

def apply (system : System buffer) : Action → Option (System buffer)
  | .call sampleSize =>
      match system.phase with
      | .idle => some { system with phase := .looking sampleSize }
      | _ => none
  | .tail =>
      match system.phase with
      | .looking sampleSize =>
          some { system with phase := .testing sampleSize (UInt32.ofNat system.unread.length) }
      | _ => none
  | .test =>
      match system.phase with
      | .testing sampleSize length =>
          if length.toNat < bytesOf sampleSize then some { system with phase := .short sampleSize }
          else some { system with phase := .copying sampleSize }
      | _ => none
  | .wait =>
      match system.phase with
      | .short sampleSize => some { system with phase := .waiting sampleSize false }
      | _ => none
  | .wake =>
      match system.phase with
      | .waiting sampleSize true => some { system with phase := .looking sampleSize }
      | _ => none
  | .consume =>
      match system.phase with
      | .copying sampleSize =>
          some { system with
            audioSampleBuffer := buffer.consume system.audioSampleBuffer (UInt32.ofNat (bytesOf sampleSize))
            phase := .idle
            sampleOut := system.unread.take (bytesOf sampleSize) }
      | _ => none
  | .produceBytes bytes =>
      some { system with
        audioSampleBuffer := buffer.produceBytes system.audioSampleBuffer bytes
        producing := system.producing + 1 }
  | .signal =>
      match system.producing with
      | 0 => none
      | producing + 1 => some { system with producing, phase := system.phase.signalled }

def step (system : System buffer) (action : Action) : Option (System buffer × List (Moved buffer)) :=
  (system.apply action).map fun after => (after, [⟨action, system, after⟩])

/-- sample() sleeps, nothing is under way that wakes it, and the bytes it waits for are there. -/
def Lost (system : System buffer) : Prop :=
  ∃ sampleSize, system.phase = .waiting sampleSize false ∧ system.producing = 0 ∧
    bytesOf sampleSize ≤ system.unread.length

end System

def Moved.Notices (moved : Moved buffer) : Prop :=
  moved.action = .wait → ∀ sampleSize, moved.before.phase = .short sampleSize →
    moved.before.unread.length < bytesOf sampleSize ∨ 0 < moved.before.producing

variable {system after : System buffer} {action : Action}

inductive Applied (system : System buffer) : Action → System buffer → Prop where
  | call {sampleSize : UInt32} (standing : system.phase = .idle) :
      Applied system (.call sampleSize) { system with phase := .looking sampleSize }
  | tail {sampleSize : UInt32} (standing : system.phase = .looking sampleSize) :
      Applied system .tail
        { system with phase := .testing sampleSize (UInt32.ofNat system.unread.length) }
  | missing {sampleSize length : UInt32} (standing : system.phase = .testing sampleSize length)
      (less : length.toNat < bytesOf sampleSize) :
      Applied system .test { system with phase := .short sampleSize }
  | enough {sampleSize length : UInt32} (standing : system.phase = .testing sampleSize length)
      (reached : bytesOf sampleSize ≤ length.toNat) :
      Applied system .test { system with phase := .copying sampleSize }
  | wait {sampleSize : UInt32} (standing : system.phase = .short sampleSize) :
      Applied system .wait { system with phase := .waiting sampleSize false }
  | wake {sampleSize : UInt32} (standing : system.phase = .waiting sampleSize true) :
      Applied system .wake { system with phase := .looking sampleSize }
  | consume {sampleSize : UInt32} (standing : system.phase = .copying sampleSize) :
      Applied system .consume
        { system with
          audioSampleBuffer := buffer.consume system.audioSampleBuffer (UInt32.ofNat (bytesOf sampleSize))
          phase := .idle
          sampleOut := system.unread.take (bytesOf sampleSize) }
  | produceBytes {bytes : List UInt8} :
      Applied system (.produceBytes bytes)
        { system with
          audioSampleBuffer := buffer.produceBytes system.audioSampleBuffer bytes
          producing := system.producing + 1 }
  | signal {producing : Nat} (counted : system.producing = producing + 1) :
      Applied system .signal { system with producing, phase := system.phase.signalled }

theorem apply_cases (applied : system.apply action = some after) : Applied system action after := by
  cases action with
  | produceBytes bytes =>
    cases applied
    exact .produceBytes
  | test =>
    simp only [System.apply] at applied
    split at applied
    next sampleSize length standing =>
      split at applied
      next less =>
        cases applied
        exact .missing standing less
      next reached =>
        cases applied
        exact .enough standing (Nat.le_of_not_lt reached)
    next => cases applied
  | signal =>
    simp only [System.apply] at applied
    split at applied
    next => cases applied
    next producing counted =>
      cases applied
      exact .signal counted
  | call | tail | wait | wake | consume =>
    simp only [System.apply] at applied
    split at applied
    next standing =>
      cases applied
      constructor
      exact standing
    next => cases applied

-- The thread falls asleep in one step only, and a callback that has not signalled yet will wake it.
theorem lost_only_by_wait (applied : system.apply action = some after) (other : action ≠ .wait) :
    ¬after.Lost := by
  intro lost
  obtain ⟨sampleSize, asleep, unsignalled, _⟩ := lost
  cases apply_cases applied with
  | call | tail | missing | enough | wake | consume => cases asleep
  | wait => exact other rfl
  | produceBytes => exact absurd unsignalled (Nat.succ_ne_zero _)
  | signal => cases standing : system.phase <;> simp [standing, Phase.signalled] at asleep

theorem apply_lost_iff (applied : system.apply action = some after) :
    ¬after.Lost ↔ Moved.Notices ⟨action, system, after⟩ := by
  by_cases waits : action = .wait
  · subst waits
    cases apply_cases applied with
    | wait standing =>
      simp only [System.Lost, Moved.Notices, System.unread, standing, true_imp_iff, Phase.waiting.injEq,
        Phase.short.injEq, and_true, exists_eq_left', forall_eq', not_and, Nat.not_le]
      omega
  · constructor
    · intro _ wait
      exact absurd wait waits
    · intro _
      exact lost_only_by_wait applied waits

theorem apply_of_step {new : List (Moved buffer)} (taken : system.step action = some (after, new)) :
    system.apply action = some after ∧ new = [⟨action, system, after⟩] :=
  Machine.recorded_taken taken

theorem sample_woken_iff (buffer : TPCircularBuffer) (state : buffer.State) (actions : List Action)
    (final : System buffer) (log : List (Moved buffer))
    (ran : Machine.run System.step (.start state) actions = some (final, log)) :
    (∀ moved ∈ log, ¬moved.after.Lost) ↔ ∀ moved ∈ log, moved.Notices := by
  apply Machine.run_good_iff (fun system => ¬system.Lost) Moved.Notices Moved.after _ _ ran
  · intro system action next new _ taken
    obtain ⟨applied, rfl⟩ := apply_of_step taken
    exact ⟨⟨action, system, next⟩, rfl, rfl, apply_lost_iff applied⟩
  · rintro ⟨_, asleep, _⟩
    cases asleep

def System.Ready (system : System buffer) : Prop :=
  (∀ sampleSize length, system.phase = .testing sampleSize length →
    length.toNat ≤ system.unread.length) ∧
  ∀ sampleSize, system.phase = .copying sampleSize → bytesOf sampleSize ≤ system.unread.length

def Moved.Front (moved : Moved buffer) : Prop :=
  moved.action = .consume → ∀ sampleSize, moved.before.phase = .copying sampleSize →
    moved.after.sampleOut.length = bytesOf sampleSize ∧
      moved.before.unread = moved.after.sampleOut ++ moved.after.unread

theorem produceBytes_grows (state : buffer.State) (bytes : List UInt8) :
    (buffer.tail state).length ≤ (buffer.tail (buffer.produceBytes state bytes)).length := by
  rcases buffer.produced state bytes with stored | full
  · rw [stored, List.length_append]
    omega
  · exact Nat.le_of_eq (by rw [full])

theorem apply_ready (ready : system.Ready) (applied : system.apply action = some after) : after.Ready := by
  obtain ⟨tested, copied⟩ := ready
  cases apply_cases applied with
  | call | missing | wait | wake | consume => simp [System.Ready]
  | tail standing =>
    refine ⟨fun sampleSize length standing => ?_, by simp⟩
    cases standing
    simp only [System.unread, UInt32.toNat_ofNat']
    exact Nat.mod_le _ _
  | @enough sampleSize length standing reached =>
    have seen := tested sampleSize length standing
    refine ⟨by simp, fun other standing => ?_⟩
    cases standing
    exact Nat.le_trans reached seen
  | @produceBytes bytes =>
    have grows := produceBytes_grows system.audioSampleBuffer bytes
    exact ⟨fun sampleSize length standing => Nat.le_trans (tested sampleSize length standing) grows,
      fun sampleSize standing => Nat.le_trans (copied sampleSize standing) grows⟩
  | signal =>
    cases standing : system.phase with
    | testing sampleSize length =>
      simpa [System.Ready, System.unread, Phase.signalled] using tested sampleSize length standing
    | copying sampleSize =>
      simpa [System.Ready, System.unread, Phase.signalled] using copied sampleSize standing
    | idle | looking | short | waiting => simp [System.Ready, Phase.signalled]

theorem consume_front (ready : system.Ready) (applied : system.apply action = some after) :
    Moved.Front ⟨action, system, after⟩ := by
  intro consumes sampleSize standing
  dsimp only at consumes standing ⊢
  subst consumes
  simp only [System.apply, standing] at applied
  cases applied
  have enough := ready.2 sampleSize standing
  have bounded := buffer.bounded system.audioSampleBuffer
  have amount : (UInt32.ofNat (bytesOf sampleSize)).toNat = bytesOf sampleSize :=
    UInt32.toNat_ofNat_of_lt (Nat.lt_of_le_of_lt enough bounded)
  have consumed := buffer.consumed system.audioSampleBuffer (UInt32.ofNat (bytesOf sampleSize))
  rw [amount] at consumed
  have rest := consumed enough
  simp only [System.unread] at enough ⊢
  rw [rest, List.take_append_drop, List.length_take, Nat.min_eq_left enough]
  exact ⟨rfl, rfl⟩

theorem sample_copies_front {state : buffer.State} {actions : List Action} {final : System buffer}
    {log : List (Moved buffer)} (ran : Machine.run System.step (.start state) actions = some (final, log)) :
    ∀ moved ∈ log, moved.Front := by
  have initial : (System.start state).Ready := ⟨fun _ _ standing => (by cases standing),
    fun _ standing => (by cases standing)⟩
  have kept := Machine.run_records System.Ready Moved.Front
    (by
      intro system action next new (_ : True) ready taken
      obtain ⟨applied, rfl⟩ := apply_of_step taken
      refine ⟨apply_ready ready applied, fun moved member => ?_⟩
      cases List.mem_singleton.mp member
      exact consume_front ready applied)
    (fun _ _ => trivial) initial ran
  exact kept.2

-- A FIFO that is as large as the type of its length allows.
def plainBuffer : TPCircularBuffer where
  State := { bytes : List UInt8 // bytes.length < UInt32.size }
  tail := fun state => state.val
  produceBytes := fun state bytes =>
    if room : (state.val ++ bytes).length < UInt32.size then ⟨state.val ++ bytes, room⟩ else state
  consume := fun state amount =>
    ⟨state.val.drop amount.toNat, by
      rw [List.length_drop]
      exact Nat.lt_of_le_of_lt (Nat.sub_le _ _) state.property⟩
  bounded := fun state => state.property
  produced := by
    intro state bytes
    split
    next => exact .inl rfl
    next => exact .inr rfl
  consumed := fun _ _ _ => rfl

def nothing : plainBuffer.State := ⟨[], by decide⟩

def woken : List Action :=
  [.call 1, .tail, .test, .wait, .produceBytes [1, 2, 3, 4], .signal, .wake, .tail, .test, .consume]

theorem sample_woken_iff_plain :
    ∃ final log, Machine.run System.step (System.start nothing) woken = some (final, log) ∧
      final.sampleOut = [1, 2, 3, 4] ∧
      ((∀ moved ∈ log, ¬moved.after.Lost) ↔ ∀ moved ∈ log, moved.Notices) :=
  ⟨_, _, rfl, rfl, sample_woken_iff plainBuffer nothing woken _ _ rfl⟩

-- The float arrives, and is signalled, after the test and before the wait.
def missed : List Action := [.call 1, .tail, .test, .produceBytes [1, 2, 3, 4], .signal, .wait]

theorem sample_misses_signal :
    ¬∀ (buffer : TPCircularBuffer) (state : buffer.State) (actions : List Action) (final : System buffer)
        (log : List (Moved buffer)),
      Machine.run System.step (.start state) actions = some (final, log) →
      ∀ moved ∈ log, ¬moved.after.Lost := by
  intro always
  have woken := always plainBuffer nothing missed _ _ rfl _
    (.tail _ (.tail _ (.tail _ (.tail _ (.tail _ (.head _))))))
  exact woken ⟨1, rfl, rfl, by decide⟩

end MacAudioInput

end Pirks.Audio
