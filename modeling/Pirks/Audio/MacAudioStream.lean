import Pirks.Audio.MacAudioInput

set_option autoImplicit false

namespace Pirks.Audio.MacAudioInput

variable {buffer : TPCircularBuffer}

-- A packet is stored whole, or not at all when the buffer has no room for it.
def Moved.stored (moved : Moved buffer) : List UInt8 :=
  match moved.action with
  | .produceBytes bytes => if moved.after.unread = moved.before.unread ++ bytes then bytes else []
  | _ => []

def Moved.sampled (moved : Moved buffer) : List UInt8 :=
  match moved.action with
  | .consume => moved.after.sampleOut
  | _ => []

def stream (log : List (Moved buffer)) : List UInt8 := log.flatMap Moved.stored

def samples (log : List (Moved buffer)) : List UInt8 := log.flatMap Moved.sampled

variable {system after : System buffer} {action : Action}

theorem apply_conserves (ready : system.Ready) (applied : system.apply action = some after) :
    system.unread ++ Moved.stored ⟨action, system, after⟩ = Moved.sampled ⟨action, system, after⟩ ++ after.unread := by
  have front := consume_front ready applied
  cases apply_cases applied with
  | call | tail | missing | enough | wait | wake | signal => simp [Moved.stored, Moved.sampled, System.unread]
  | consume standing => simpa [Moved.stored, Moved.sampled] using (front rfl _ standing).2
  | @produceBytes bytes =>
    rcases buffer.produced system.audioSampleBuffer bytes with stored | full
    · simp [Moved.stored, Moved.sampled, System.unread, stored]
    · cases bytes with
      | nil => simp [Moved.stored, Moved.sampled, System.unread, full]
      | cons first rest => simp [Moved.stored, Moved.sampled, System.unread, full]

theorem samples_are_stream (buffer : TPCircularBuffer) (state : buffer.State) (actions : List Action)
    (final : System buffer) (log : List (Moved buffer))
    (ran : Machine.run System.step (.start state) actions = some (final, log)) :
    samples log ++ final.unread = buffer.tail state ++ stream log ∧
      ∀ moved ∈ log, ∀ sampleSize, moved.action = .consume → moved.before.phase = .copying sampleSize →
        moved.sampled.length = bytesOf sampleSize := by
  have initial : (System.start state).Ready := ⟨fun _ _ standing => (by cases standing),
    fun _ standing => (by cases standing)⟩
  have kept := Machine.run_preserves
    (fun (system : System buffer) log => system.Ready ∧ samples log ++ system.unread = buffer.tail state ++ stream log)
    (by
      rintro system log action next new - ⟨ready, conserved⟩ taken
      obtain ⟨applied, rfl⟩ := apply_of_step taken
      have moved := apply_conserves ready applied
      refine ⟨apply_ready ready applied, ?_⟩
      calc samples (log ++ [⟨action, system, next⟩]) ++ next.unread
          = samples log ++ (Moved.sampled ⟨action, system, next⟩ ++ next.unread) := by simp [samples]
        _ = samples log ++ system.unread ++ Moved.stored ⟨action, system, next⟩ := by
          rw [← moved, List.append_assoc]
        _ = buffer.tail state ++ stream (log ++ [⟨action, system, next⟩]) := by simp [conserved, stream])
    [] (fun _ _ => trivial) ⟨initial, by simp [samples, stream, System.unread, System.start]⟩ ran
  refine ⟨by simpa using kept.2, fun moved member sampleSize consumes standing => ?_⟩
  have front := sample_copies_front ran moved member consumes sampleSize standing
  simpa [Moved.sampled, consumes] using front.1

theorem samples_are_stream_woken :
    ∃ final log, Machine.run System.step (System.start nothing) woken = some (final, log) ∧
      samples log ++ final.unread = plainBuffer.tail nothing ++ stream log ∧
        ∀ moved ∈ log, ∀ sampleSize, moved.action = .consume → moved.before.phase = .copying sampleSize →
          moved.sampled.length = bytesOf sampleSize :=
  ⟨_, _, rfl, samples_are_stream plainBuffer nothing woken _ _ rfl⟩

end Pirks.Audio.MacAudioInput
