import Pirks.Common.CircularBufferContents

set_option autoImplicit false

namespace Pirks.CircularBuffer

open Execution
open Monitor (Entry Outcome)

variable {T : Type} {size capacity : Nat} {queue : List T} {locked : Locked T}

def Locked.put (locked : Locked T) (b : CircularBuffer T) : Locked T := { locked with buffer := b }

@[simp]
theorem put_buffer (locked : Locked T) (b : CircularBuffer T) : (locked.put b).buffer = b := rfl

@[simp]
theorem put_put (locked : Locked T) (b b' : CircularBuffer T) :
    (locked.put b).put b' = locked.put b' := rfl

@[simp]
theorem put_self (locked : Locked T) : locked.put locked.buffer = locked := rfl

theorem perform_assignAt_copies {index : Nat} (inside : index < locked.buffer.buffer.size) (value : T) :
    perform (assignAt index (.copies value)) locked =
      (.ok (), locked.put
        { locked.buffer with buffer := locked.buffer.buffer.set index value }) := by
  have found := List.getElem?_eq_getElem inside
  simp [assignAt, perform_bind, perform_vectorAt found, Locked.put]

theorem perform_assignAt_throws {index : Nat} (inside : index < locked.buffer.buffer.size)
    (value left : T) :
    perform (assignAt index (.throws value left)) locked =
      (.error .copyThrew, locked.put
        { locked.buffer with buffer := locked.buffer.buffer.set index left }) := by
  have found := List.getElem?_eq_getElem inside
  simp [assignAt, perform_bind, perform_vectorAt found, Locked.put]

theorem perform_store_copies (holds : Holds size capacity locked.buffer queue)
    (stored : locked.buffer.endIndex < size) (value : T) :
    perform (store capacity (.copies value)) locked =
      (.ok (), locked.put (afterStore locked.buffer value)) := by
  have room := holds.size_le
  have positive : 0 < capacity := by omega
  have inside : locked.buffer.endIndex < locked.buffer.buffer.size := by
    rw [holds.size_eq]
    exact stored
  by_cases met : next capacity locked.buffer.endIndex = locked.buffer.startIndex <;>
    simp [store, perform_bind, perform_assignAt_copies inside, perform_advance positive, met, Locked.put,
      afterStore, holds.capacity_eq]

theorem perform_store_throws (holds : Holds size capacity locked.buffer queue)
    (stored : locked.buffer.endIndex < size) (value left : T) :
    perform (store capacity (.throws value left)) locked =
      (.error .copyThrew, locked.put { locked.buffer with
        buffer := locked.buffer.buffer.set locked.buffer.endIndex left }) := by
  have inside : locked.buffer.endIndex < locked.buffer.buffer.size := by
    rw [holds.size_eq]
    exact stored
  simp [store, perform_bind, perform_assignAt_throws inside]

theorem perform_store_outOfRange (holds : Holds size capacity locked.buffer queue)
    (outside : size ≤ locked.buffer.endIndex) (element : Source T) :
    perform (store capacity element) locked =
      (.error (.outOfRange locked.buffer.endIndex), locked) := by
  have past : locked.buffer.buffer.size ≤ locked.buffer.endIndex := by
    rw [holds.size_eq]
    exact outside
  simp [store, assignAt, perform_bind, perform_vectorAt_outOfRange past]

theorem perform_store_cases (holds : Holds size capacity locked.buffer queue) (element : Source T) :
    (∃ value, element = .copies value ∧ locked.buffer.endIndex < size ∧
      perform (store capacity element) locked = (.ok (), locked.put (afterStore locked.buffer value))) ∨
    (∃ fault b, perform (store capacity element) locked = (.error fault, locked.put b) ∧
      Holds size capacity b queue ∧ b.active = locked.buffer.active ∧
      b.startIndex = locked.buffer.startIndex ∧ b.endIndex = locked.buffer.endIndex ∧
      (fault = .outOfRange locked.buffer.endIndex ∧ size ≤ locked.buffer.endIndex ∧ b = locked.buffer ∨
        fault = .copyThrew ∧ ¬element.Copies ∧ locked.buffer.endIndex < size)) := by
  by_cases stored : locked.buffer.endIndex < size
  · cases element with
    | copies value => exact .inl ⟨value, rfl, stored, perform_store_copies holds stored value⟩
    | throws value left =>
      exact .inr ⟨_, _, perform_store_throws holds stored value left, holds.spoilEnd left, rfl, rfl, rfl,
        .inr ⟨rfl, by simp [Source.Copies], stored⟩⟩
  · exact .inr ⟨_, locked.buffer, perform_store_outOfRange holds (by omega) element, holds, rfl, rfl, rfl,
      .inl ⟨rfl, by omega, rfl⟩⟩

theorem perform_storeAll_copies (holds : Holds size size locked.buffer queue) (positive : 0 < size)
    (values : List T) :
    ∃ b, perform (storeAll size (values.map .copies)) locked = (.ok (), locked.put b) ∧
      Holds size size b ((queue ++ values).rtake (size - 1)) ∧
      b.active = locked.buffer.active := by
  induction values generalizing locked queue with
  | nil =>
    have bounded := holds.length_lt
    refine ⟨locked.buffer, rfl, ?_, rfl⟩
    rw [List.append_nil, BoundedFifo.rtake_of_length_le (by omega)]
    exact holds
  | cons value values ih =>
    have first := perform_store_copies holds (holds.end_lt positive) value
    have kept : Holds size size (locked.put (afterStore locked.buffer value)).buffer _ :=
      holds.afterStore (holds.end_lt positive) value
    obtain ⟨b, ran, held, active⟩ := ih kept
    refine ⟨b, by simpa [storeAll, perform_bind, first] using ran, ?_, active⟩
    rw [BoundedFifo.rtake_append_rtake] at held
    simpa using held

theorem perform_peek (holds : Holds size capacity locked.buffer queue) :
    perform peek locked = (.ok (if locked.buffer.active then queue.head? else none), locked) := by
  cases active : locked.buffer.active with
  | false => simp [peek, perform_bind, active]
  | true =>
    rcases queue with _ | ⟨first, rest⟩
    · simp [peek, perform_bind, active, holds.empty_iff.mpr rfl]
    · have apart := holds.indices_apart (by simp)
      simp [peek, perform_bind, perform_map, active, apart, perform_vectorAt holds.front]

theorem perform_isEmpty (holds : Holds size capacity locked.buffer queue) :
    perform isEmpty locked = (.ok (if locked.buffer.active then queue.isEmpty else true), locked) := by
  cases active : locked.buffer.active with
  | false => simp [isEmpty, perform_bind, active]
  | true => cases queue <;> simp [isEmpty, perform_bind, active, holds.empty_iff]

theorem perform_isFull (holds : Holds size capacity locked.buffer queue) (active : locked.buffer.active = true)
    (positive : 0 < capacity) :
    perform isFull locked =
      (.ok (decide (locked.buffer.endIndex = next capacity locked.buffer.startIndex)), locked) := by
  simp [isFull, perform_bind, perform_map, active, holds.capacity_eq, perform_advance positive]

theorem perform_isFull_zero (holds : Holds size 0 locked.buffer queue) (active : locked.buffer.active = true) :
    perform isFull locked = (.error .divideByZero, locked) := by
  simp [isFull, perform_bind, perform_map, active, holds.capacity_eq]

theorem perform_section_timeout (call : Blocking T) (locked : Locked T) :
    perform (call.section (.resume true)) locked = (.ok (.returned call.nothing), locked) := rfl

theorem perform_section_stopped (call : Blocking T) (entry : Entry) (locked : Locked T)
    (stopped : locked.buffer.active = false) :
    perform (call.section entry) locked = (.ok (.returned call.nothing), locked) := by
  cases entry with
  | enter => simp [Blocking.section, perform_bind, stopped]
  | resume timedOut => cases timedOut <;> simp [Blocking.section, perform_bind, stopped]

theorem perform_section_empty (call : Blocking T) {entry : Entry} (inTime : entry ≠ .resume true)
    (locked : Locked T) (active : locked.buffer.active = true)
    (empty : locked.buffer.startIndex = locked.buffer.endIndex) :
    perform (call.section entry) locked = (.ok .waits, locked) := by
  cases entry with
  | enter => simp [Blocking.section, perform_bind, active, empty]
  | resume timedOut =>
    cases timedOut
    · simp [Blocking.section, perform_bind, active, empty]
    · exact absurd rfl inTime

theorem perform_section_available (call : Blocking T) {entry : Entry} (inTime : entry ≠ .resume true)
    (locked : Locked T) (active : locked.buffer.active = true)
    (available : locked.buffer.startIndex ≠ locked.buffer.endIndex) :
    perform (call.section entry) locked = perform (Outcome.returned <$> call.body) locked := by
  cases entry with
  | enter => simp [Blocking.section, perform_bind, active, available]
  | resume timedOut =>
    cases timedOut
    · simp [Blocking.section, perform_bind, active, available]
    · exact absurd rfl inTime

section Removal

variable [Element T]

theorem perform_moveAt {index : Nat} {value : T}
    (found : locked.buffer.buffer.elements[index]? = some value) :
    perform (moveAt index) locked =
      (.ok value, locked.put { locked.buffer with
        buffer := locked.buffer.buffer.set index (Element.movedFrom value) }) := by
  simp [moveAt, perform_bind, perform_map, perform_vectorAt found, Locked.put]

theorem perform_moveAssignAt {index : Nat} {value : T}
    (found : locked.buffer.buffer.elements[index]? = some value) (target : T) :
    perform (moveAssignAt index target) locked =
      (.ok value, locked.put { locked.buffer with
        buffer := locked.buffer.buffer.set index (Element.moveAssigned value target) }) := by
  simp [moveAssignAt, perform_bind, perform_map, perform_vectorAt found, Locked.put]

theorem perform_takeFront {first : T} {rest : List T}
    (holds : Holds size capacity locked.buffer (first :: rest)) :
    perform takeFront locked =
      (.ok (.element (some first)),
        locked.put (afterTake locked.buffer (Element.movedFrom first))) := by
  have big := holds.nonempty_capacity.1
  simp [takeFront, perform_bind, perform_map, perform_moveAt holds.front, afterTake, Locked.put, StdVector.set,
    holds.capacity_eq, perform_advance (show 0 < capacity by omega)]

theorem perform_moveFront {first : T} {rest : List T}
    (holds : Holds size capacity locked.buffer (first :: rest)) :
    perform moveFront locked =
      (.ok (.element (some first)), locked.put { locked.buffer with
        buffer := locked.buffer.buffer.set locked.buffer.startIndex (Element.movedFrom first) }) := by
  simp [moveFront, perform_bind, perform_map, perform_moveAt holds.front]

theorem resize_length (outBuffer : List T) (size : Nat) : (resize outBuffer size).length = size := by
  simp [resize]
  omega

-- Each turn removes the head; the loop ends at the limit or when the buffer runs empty.
theorem perform_batchLoop (remaining i : Nat) (outBuffer : List T)
    (holds : Holds size capacity locked.buffer queue) (nonempty : queue ≠ [])
    (fits : i + min remaining queue.length ≤ outBuffer.length) :
    ∃ outBuffer' b, perform (batchLoop capacity remaining i outBuffer) locked =
        (.ok (.batch (i + min remaining queue.length) outBuffer'), locked.put b) ∧
      Holds size capacity b (queue.drop remaining) ∧ (b.active = locked.buffer.active ∧ b.endIndex = locked.buffer.endIndex) ∧
      outBuffer'.length = outBuffer.length ∧
      outBuffer'.take (i + min remaining queue.length) = outBuffer.take i ++ queue.take remaining := by
  induction remaining generalizing i outBuffer locked queue with
  | zero => exact ⟨outBuffer, locked.buffer, by simp [batchLoop], by simpa using holds, ⟨rfl, rfl⟩, rfl,
      by simp⟩
  | succ remaining ih =>
    obtain ⟨first, rest, rfl⟩ := List.exists_cons_of_ne_nil nonempty
    have big := holds.nonempty_capacity.1
    have room : i < outBuffer.length := by
      simp only [List.length_cons] at fits
      omega
    let after := afterTake locked.buffer (Element.moveAssigned first outBuffer[i])
    have taken : Holds size capacity (locked.put after).buffer rest := holds.afterTake _
    have written : (outBuffer.set i first).take (i + 1) = outBuffer.take i ++ [first] := by
      rw [List.take_add_one, List.take_set_of_le (Nat.le_refl i), List.getElem?_set_self room]
      rfl
    have turn : perform (batchLoop capacity (remaining + 1) i outBuffer) locked =
        if after.startIndex = after.endIndex then
          (.ok (.batch (i + 1) (outBuffer.set i first)), locked.put after)
        else perform (batchLoop capacity remaining (i + 1) (outBuffer.set i first)) (locked.put after) := by
      by_cases met : next capacity locked.buffer.startIndex = locked.buffer.endIndex <;>
        simp [batchLoop, List.getElem?_eq_getElem room, perform_bind, perform_moveAssignAt holds.front,
          perform_advance (show 0 < capacity by omega), after, afterTake, Locked.put, holds.capacity_eq, met,
          StdVector.set]
    rw [turn]
    by_cases drained : after.startIndex = after.endIndex
    · have last := taken.empty_iff.mp drained
      subst last
      refine ⟨outBuffer.set i first, after, by simp [drained], by simpa using taken, ⟨rfl, rfl⟩,
        by simp, ?_⟩
      simpa using written
    · have more : rest ≠ [] := fun none => drained (taken.empty_iff.mpr none)
      obtain ⟨outBuffer', b, ran, held, frame, same, prefixed⟩ :=
        ih (i + 1) (outBuffer.set i first) taken more (by
          simp only [List.length_cons, List.length_set] at fits ⊢
          omega)
      have count : i + 1 + min remaining rest.length = i + min (remaining + 1) (first :: rest).length := by
        simp only [List.length_cons]
        omega
      rw [count] at ran prefixed
      refine ⟨outBuffer', b, by simpa [drained] using ran, by simpa using held, frame, by simpa using same, ?_⟩
      rw [prefixed, written]
      simp

theorem perform_takeBatch (outBuffer : List T) (maxElements : Nat)
    (holds : Holds size capacity locked.buffer queue) (nonempty : queue ≠ []) :
    ∃ outBuffer' b, perform (takeBatch outBuffer maxElements) locked =
        (.ok (.batch (min maxElements queue.length) outBuffer'), locked.put b) ∧
      Holds size capacity b (queue.drop maxElements) ∧ (b.active = locked.buffer.active ∧ b.endIndex = locked.buffer.endIndex) ∧
      outBuffer'.length = min capacity maxElements ∧
      outBuffer'.take (min maxElements queue.length) = queue.take maxElements := by
  have bounded := holds.length_lt
  have positive := List.length_pos_of_ne_nil nonempty
  obtain ⟨outBuffer', b, ran, held, frame, same, prefixed⟩ :=
    perform_batchLoop maxElements 0 (resize outBuffer (min capacity maxElements)) holds nonempty
      (by rw [resize_length]; omega)
  rw [resize_length] at same
  refine ⟨outBuffer', b, ?_, held, frame, same, by simpa using prefixed⟩
  simpa [takeBatch, perform_bind, holds.capacity_eq] using ran

theorem Holds.afterBatch {b b' : CircularBuffer T} (holds : Holds size capacity b queue) (nonempty : queue ≠ [])
    {outBuffer : List T} {maxElements : Nat} {reply : Except Fault (Reply T)}
    (ran : perform (takeBatch outBuffer maxElements) ⟨b, false⟩ = (reply, ⟨b', false⟩)) :
    Holds size capacity b' (queue.drop maxElements) ∧ b'.active = b.active ∧ b'.endIndex = b.endIndex := by
  have here : Holds size capacity (Locked.mk b false).buffer queue := holds
  obtain ⟨_, _, same, held, frame, -, -⟩ := perform_takeBatch outBuffer maxElements here nonempty
  rw [ran] at same
  cases same
  exact ⟨held, frame⟩

end Removal

end Pirks.CircularBuffer
