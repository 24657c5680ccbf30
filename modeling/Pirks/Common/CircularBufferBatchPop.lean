import Pirks.Common.CircularBufferThreads

set_option autoImplicit false

namespace Pirks.CircularBuffer

open Execution Monitor

variable {T : Type}

/-- The whole of out_buffer is what this call has removed, oldest first, and k counts it. -/
def DeliversExactly (executed : Section (CircularBuffer T) (Call T) (Answer T)) : Prop :=
  ∀ count outBuffer, executed.result.outcome = .returned (.ok (.batch count outBuffer)) →
    outBuffer.length = count ∧ unread executed.before = outBuffer ++ unread executed.result.shared

def Fits (outBuffer : List T) (maxElements : Nat)
    (executed : Section (CircularBuffer T) (Call T) (Answer T)) : Prop :=
  if executed.entry = .resume true ∨ executed.before.active = false then outBuffer = []
  else unread executed.before ≠ [] → maxElements ≤ (unread executed.before).length

def PopsBatch (call : Call T) (outBuffer : List T) (maxElements : Nat) : Prop :=
  call = .popBatch outBuffer maxElements ∨ ∃ delay, call = .popBatchFor outBuffer maxElements delay

variable {size capacity : Nat} {b : CircularBuffer T} {queue : List T}
variable {call : Call T} {outBuffer : List T} {maxElements : Nat}

section BatchPop

variable [Element T]

theorem PopsBatch.blocks (pops : PopsBatch call outBuffer maxElements) :
    ∃ blocking, blocking? call = some blocking ∧ blocking.nothing = .batch 0 outBuffer ∧
      blocking.body = takeBatch outBuffer maxElements := by
  rcases pops with rfl | ⟨delay, rfl⟩
  · exact ⟨popBatch outBuffer maxElements, rfl, rfl, rfl⟩
  · exact ⟨popBatchFor outBuffer maxElements delay, rfl, rfl, rfl⟩

theorem Holds.delivers_iff (holds : Holds size capacity b queue)
    (pops : PopsBatch call outBuffer maxElements) (thread : Nat) (entry : Entry) :
    DeliversExactly ⟨thread, call, entry, b, program.critical call entry b⟩ ↔
      Fits outBuffer maxElements ⟨thread, call, entry, b, program.critical call entry b⟩ := by
  obtain ⟨blocking, blocks, nothing, body⟩ := pops.blocks
  unfold DeliversExactly Fits
  by_cases cause : entry = .resume true ∨ b.active = false
  · rw [critical_gaveUp blocks cause, nothing, if_pos cause]
    constructor
    · intro exactly
      exact List.eq_nil_of_length_eq_zero (exactly 0 outBuffer rfl).1
    · rintro rfl count outBuffer' same
      cases same
      exact ⟨rfl, rfl⟩
  · obtain ⟨inTime, active⟩ : entry ≠ .resume true ∧ b.active = true := by simpa using cause
    rw [if_neg cause, holds.unread_eq]
    by_cases empty : queue = []
    · rw [critical_slept blocks inTime active (holds.empty_iff.mpr empty)]
      simp [empty]
    · have apart := holds.indices_apart empty
      have here : Holds size capacity (Locked.mk b false).buffer queue := holds
      have bounded := holds.length_lt
      have some_ := List.length_pos_of_ne_nil empty
      obtain ⟨outBuffer', b', ran, held, -, length, written⟩ :=
        perform_takeBatch outBuffer maxElements here empty
      rw [← body] at ran
      rw [critical_available blocks inTime active apart ran]
      constructor
      · intro exactly _
        have counted := (exactly _ outBuffer' rfl).1
        omega
      · intro fits count outBuffer'' same
        cases same
        have enough := fits empty
        have filled : outBuffer' = queue.take maxElements := by
          rw [← written, List.take_of_length_le (by omega)]
        constructor
        · omega
        · change queue = outBuffer' ++ unread b'
          rw [held.unread_eq, filled, List.take_append_drop]

theorem deliversExactly_iff (c : Nat) (reserved : Reserved ((c + 1) % sizeModulus))
    (actions : List (Action (Call T))) (final : State (CircularBuffer T) (Call T))
    (log : List (Section (CircularBuffer T) (Call T) (Answer T)))
    (ran : exec program (start (construct c reserved)) actions = some (final, log))
    (executed : Section (CircularBuffer T) (Call T) (Answer T)) (member : executed ∈ log)
    (outBuffer : List T) (maxElements : Nat) (pops : PopsBatch executed.call outBuffer maxElements) :
    DeliversExactly executed ↔ Fits outBuffer maxElements executed := by
  have each := (exec_kept
    (fun executed => PopsBatch executed.call outBuffer maxElements →
      (DeliversExactly executed ↔ Fits outBuffer maxElements executed))
    (fun thread call entry before queue holds pops => holds.delivers_iff pops thread entry) ran).2
  exact each executed member pops

theorem deliversExactly_iff_two_of_three :
    ∃ final pushed popped,
      exec program (start (construct 3 ⟨4, by decide, by decide⟩ : CircularBuffer Nat))
        [.enter 0 (.pushSpan [.copies 5, .copies 6, .copies 7]), .enter 1 (.popBatch [9, 9, 9] 2)] =
          some (final, [pushed, popped]) ∧
      (DeliversExactly popped ↔ Fits [9, 9, 9] 2 popped) :=
  ⟨_, _, _, rfl, deliversExactly_iff 3 ⟨4, by decide, by decide⟩
    [.enter 0 (.pushSpan [.copies 5, .copies 6, .copies 7]), .enter 1 (.popBatch [9, 9, 9] 2)] _ _ rfl _
    (.tail _ (.head _)) [9, 9, 9] 2 (.inl rfl)⟩

-- One element is there, and out_buffer comes back with four.
theorem deliversExactly_fails_with_filler :
    ¬∀ (c : Nat) (reserved : Reserved ((c + 1) % sizeModulus)) (actions : List (Action (Call Nat)))
        (final : State (CircularBuffer Nat) (Call Nat))
        (log : List (Section (CircularBuffer Nat) (Call Nat) (Answer Nat))),
      exec program (start (construct c reserved)) actions = some (final, log) →
      ∀ executed ∈ log, ∀ outBuffer maxElements, PopsBatch executed.call outBuffer maxElements →
        DeliversExactly executed := by
  intro always
  have exactly := always 3 ⟨4, by decide, by decide⟩
    [.enter 0 (.push (.copies 7)), .enter 1 (.popBatch [] 10)] _ _ rfl _ (.tail _ (.head _)) [] 10 (.inl rfl)
  exact absurd (exactly 1 [7, 0, 0, 0] rfl).1 (by decide)

end BatchPop

end Pirks.CircularBuffer
