import Pirks.Foundation.MonitorCalls
import Pirks.Common.CircularBufferBatchPop

set_option autoImplicit false

namespace Pirks.CircularBuffer

open Execution Monitor

variable {T : Type} {size capacity : Nat} {b : CircularBuffer T} {queue : List T}

/-- The two buffers agree in all that calls can observe; the cells behind the elements may differ in what
moving from them has left there. -/
structure SameContents (b other : CircularBuffer T) : Prop where
  active : b.active = other.active
  startIndex : b.startIndex = other.startIndex
  endIndex : b.endIndex = other.endIndex
  capacity : b.buffer.capacity = other.buffer.capacity
  size : b.buffer.size = other.buffer.size
  unread : unread b = CircularBuffer.unread other

theorem Holds.sameContents {other : CircularBuffer T} (holds : Holds size capacity b queue)
    (held : Holds size capacity other queue) (active : b.active = other.active)
    (endIndex : b.endIndex = other.endIndex) : SameContents b other where
  active := active
  startIndex := by
    have bounded := holds.length_lt
    have inside := holds.start_lt
    have inside' := held.start_lt
    have met := endIndex
    rw [holds.end_eq, held.end_eq, Nat.add_comm, Nat.add_comm other.startIndex] at met
    rcases Nat.eq_zero_or_pos capacity with rfl | positive
    · omega
    · exact CircularCells.wrap_injective (by omega) (by omega) (by omega) met
  endIndex := endIndex
  capacity := by rw [holds.capacity_eq, held.capacity_eq]
  size := by rw [holds.size_eq, held.size_eq]
  unread := by rw [holds.unread_eq, held.unread_eq]

variable [Element T]

section Pushes

theorem critical_push (holds : Holds size capacity b queue) (active : b.active = true) (stored : b.endIndex < size)
    (value : T) :
    program.critical (.push (.copies value)) .enter b = ⟨afterStore b value, true, .returned (.ok .done)⟩ := by
  have here : Holds size capacity (Locked.mk b false).buffer queue := holds
  have ran := perform_store_copies here stored value
  have direct : dispatch (.push (.copies value) : Call T) .enter = immediate (push (.copies value)) fun _ => .done := rfl
  rw [critical_immediate _ direct]
  simp [push, perform_bind, active, holds.capacity_eq, ran, Locked.put]

theorem storeAll_serves (holds : Holds size capacity b queue) (active : b.active = true) {elements : List (Source T)}
    {after : Locked T} (ran : perform (storeAll capacity elements) ⟨b, false⟩ = (.ok (), after)) :
    after.notified = false ∧ Serves program b (elements.map .push) after.buffer
      (List.replicate elements.length (.ok .done)) (!elements.isEmpty) := by
  induction elements generalizing b queue with
  | nil =>
    cases ran
    exact ⟨rfl, .nil b⟩
  | cons element elements ih =>
    have here : Holds size capacity (Locked.mk b false).buffer queue := holds
    rcases perform_store_cases here element with ⟨value, rfl, stored, first⟩ | ⟨fault, spoilt, first, -⟩
    · rw [storeAll, perform_bind, first] at ran
      obtain ⟨silent, rest⟩ := ih (holds.afterStore stored value) (show (afterStore b value).active = true from active) ran
      refine ⟨silent, ?_⟩
      have served := Serves.cons (critical_push holds active stored value) rest
      simpa [List.replicate_succ] using served
    · rw [storeAll, perform_bind, first] at ran
      cases ran

theorem pushSpan_serves (holds : Holds size capacity b queue) (active : b.active = true) {elements : List (Source T)}
    (some_ : elements ≠ [])
    (returned : (program.critical (.pushSpan elements) .enter b).outcome = .returned (.ok .done)) :
    ∃ after, Serves program b [.pushSpan elements] after [.ok .done] true ∧
      Serves program b (elements.map .push) after (List.replicate elements.length (.ok .done)) true := by
  have direct : dispatch (.pushSpan elements : Call T) .enter = immediate (pushSpan elements) fun _ => .done := rfl
  rcases stored : perform (storeAll capacity elements) ⟨b, false⟩ with ⟨fault | _, after⟩
  · rw [critical_immediate _ direct] at returned
    simp [pushSpan, perform_bind, active, holds.capacity_eq, stored] at returned
  · obtain ⟨silent, serves⟩ := storeAll_serves holds active stored
    have batch : program.critical (.pushSpan elements) .enter b =
        ⟨after.buffer, true, .returned (.ok .done)⟩ := by
      rw [critical_immediate _ direct]
      simp [pushSpan, perform_bind, active, holds.capacity_eq, stored]
    have several : (!elements.isEmpty) = true := by simpa using some_
    rw [several] at serves
    exact ⟨after.buffer, .single batch, serves⟩

end Pushes

section Pops

def PopsOne (call : Call T) : Prop := call = .pop ∨ ∃ delay, call = .popFor delay

theorem PopsOne.critical {call : Call T} (pops : PopsOne call) {first : T} {rest : List T}
    (holds : Holds size capacity b (first :: rest)) (active : b.active = true) :
    program.critical call .enter b =
      ⟨afterTake b (Element.movedFrom first), false, .returned (.ok (.element (some first)))⟩ := by
  have here : Holds size capacity (Locked.mk b false).buffer (first :: rest) := holds
  have apart := holds.indices_apart (List.cons_ne_nil first rest)
  have ran := perform_takeFront here
  rcases pops with rfl | ⟨delay, rfl⟩
  · have blocks : blocking? (.pop : Call T) = some pop := rfl
    exact critical_available blocks Entry.enter_inTime active apart ran
  · have blocks : blocking? (.popFor delay : Call T) = some (popFor delay) := rfl
    exact critical_available blocks Entry.enter_inTime active apart ran

theorem PopsOne.serves {call : Call T} (pops : PopsOne call) (holds : Holds size capacity b queue)
    (active : b.active = true) (count : Nat) (within : count ≤ queue.length) :
    ∃ after, Serves program b (List.replicate count call) after
        ((queue.take count).map fun element => .ok (.element (some element))) false ∧
      Holds size capacity after (queue.drop count) ∧ after.active = true ∧ after.endIndex = b.endIndex := by
  induction count generalizing b queue with
  | zero => exact ⟨b, .nil b, holds, active, rfl⟩
  | succ count ih =>
    cases queue with
    | nil => cases within
    | cons first rest =>
      obtain ⟨after, served, held, still, same⟩ := ih (holds.afterTake (Element.movedFrom first)) active
        (Nat.le_of_succ_le_succ within)
      exact ⟨after, .cons (pops.critical holds active) served, held, still, same⟩

theorem batch_serves {batch single : Call T} {outBuffer : List T} {maxElements : Nat}
    (pops : PopsBatch batch outBuffer maxElements) (one : PopsOne single) (holds : Holds size capacity b queue)
    (active : b.active = true) (nonempty : queue ≠ []) :
    ∃ delivered batched popped, Serves program b [batch] batched
        [.ok (.batch (min maxElements queue.length) delivered)] false ∧
      Serves program b (List.replicate (min maxElements queue.length) single) popped
        ((delivered.take (min maxElements queue.length)).map fun element => .ok (.element (some element))) false ∧
      SameContents batched popped := by
  have here : Holds size capacity (Locked.mk b false).buffer queue := holds
  obtain ⟨delivered, batched, ran, held, ⟨still, last⟩, -, prefixed⟩ :=
    perform_takeBatch outBuffer maxElements here nonempty
  obtain ⟨popped, served, held', still', last'⟩ :=
    one.serves holds active (min maxElements queue.length) (Nat.min_le_right _ _)
  obtain ⟨blocking, blocks, -, body⟩ := pops.blocks
  have batchReturns : program.critical batch .enter b =
      ⟨batched, false, .returned (.ok (.batch (min maxElements queue.length) delivered))⟩ := by
    rw [← body] at ran
    exact critical_available blocks Entry.enter_inTime active (holds.indices_apart nonempty) ran
  have cut : queue.take (min maxElements queue.length) = queue.take maxElements := by
    rw [← List.take_take, List.take_length]
  have dropped : queue.drop (min maxElements queue.length) = queue.drop maxElements := by
    rcases Nat.le_total maxElements queue.length with short | long
    · rw [Nat.min_eq_left short]
    · rw [Nat.min_eq_right long, List.drop_length, List.drop_of_length_le long]
  rw [dropped] at held'
  rw [cut, ← prefixed] at served
  exact ⟨delivered, batched, popped, .single batchReturns, served,
    held.sameContents held' (still.trans (active.trans still'.symm)) (last.trans last'.symm)⟩

end Pops

theorem batches_agree (c : Nat) (reserved : Reserved ((c + 1) % sizeModulus)) (actions : List (Action (Call T)))
    (final : State (CircularBuffer T) (Call T)) (log : List (Section (CircularBuffer T) (Call T) (Answer T)))
    (ran : Monitor.exec program (start (construct c reserved)) actions = some (final, log)) (thread : Nat)
    (idle : final.phase thread = .idle) (active : final.shared.active = true) :
    (∀ elements, elements ≠ [] →
      (program.critical (.pushSpan elements) .enter final.shared).outcome = .returned (.ok .done) →
      ∃ after batchLog singleLog,
        Monitor.exec program final [.enter thread (.pushSpan elements)] = some (after, batchLog) ∧
        Monitor.exec program final (elements.map fun element => .enter thread (.push element)) =
          some (after, singleLog)) ∧
    (∀ batch single outBuffer maxElements, PopsBatch batch outBuffer maxElements → PopsOne single →
      unread final.shared ≠ [] → ∃ count delivered batched batchLog popped singleLog,
        count = min maxElements (unread final.shared).length ∧
        Monitor.exec program final [.enter thread batch] = some (batched, batchLog) ∧
        batchLog.map (fun executed => executed.result.outcome) = [.returned (.ok (.batch count delivered))] ∧
        Monitor.exec program final (List.replicate count (.enter thread single)) = some (popped, singleLog) ∧
        singleLog.map (fun executed => executed.result.outcome) =
          (delivered.take count).map (fun element => .returned (.ok (.element (some element)))) ∧
        batched.phase = popped.phase ∧ SameContents batched.shared popped.shared) := by
  obtain ⟨queue, holds⟩ := exec_holds ran
  rw [holds.unread_eq]
  constructor
  · intro elements some_ returned
    obtain ⟨after, batch, singles⟩ := pushSpan_serves holds active some_ returned
    obtain ⟨batchLog, batchRan, -⟩ := batch.exec idle
    obtain ⟨singleLog, singleRan, -⟩ := singles.exec idle
    rw [List.map_map] at singleRan
    exact ⟨_, batchLog, singleLog, batchRan, singleRan⟩
  · intro batch single outBuffer maxElements pops one nonempty
    obtain ⟨delivered, batched, popped, served, singles, same⟩ := batch_serves pops one holds active nonempty
    obtain ⟨batchLog, batchRan, batchReplies⟩ := served.exec idle
    obtain ⟨singleLog, singleRan, singleReplies⟩ := singles.exec idle
    rw [List.map_replicate] at singleRan
    rw [List.map_map] at singleReplies
    exact ⟨_, delivered, _, batchLog, _, singleLog, rfl, batchRan, batchReplies, singleRan, singleReplies, rfl, same⟩

theorem batches_agree_awaited :
    ∃ final log, Monitor.exec program (start (constructExact 3 : CircularBuffer Nat))
        [.enter 1 .pop, .enter 0 (.pushSpan [.copies 5, .copies 6])] = some (final, log) ∧
      (∃ after batchLog singleLog,
        Monitor.exec program final [.enter 0 (.pushSpan [.copies 7, .copies 8])] = some (after, batchLog) ∧
        Monitor.exec program final [.enter 0 (.push (.copies 7)), .enter 0 (.push (.copies 8))] =
          some (after, singleLog)) ∧
      ∃ batched batchLog popped singleLog,
        Monitor.exec program final [.enter 0 (.popBatch [] 9)] = some (batched, batchLog) ∧
        Monitor.exec program final [.enter 0 (.popFor 1), .enter 0 (.popFor 1)] = some (popped, singleLog) ∧
        SameContents batched.shared popped.shared := by
  obtain ⟨final, log, ran, idle, active, content, returned⟩ : ∃ final log,
      Monitor.exec program (start (constructExact 3 : CircularBuffer Nat))
        [.enter 1 .pop, .enter 0 (.pushSpan [.copies 5, .copies 6])] = some (final, log) ∧
      final.phase 0 = .idle ∧ final.shared.active = true ∧ unread final.shared = [5, 6] ∧
      (program.critical (.pushSpan [.copies 7, .copies 8]) .enter final.shared).outcome = .returned (.ok .done) :=
    ⟨_, _, rfl, rfl, rfl, rfl, rfl⟩
  obtain ⟨pushes, pops⟩ := batches_agree 3 _ _ final log ran 0 idle active
  have some_ : unread final.shared ≠ [] := by simp [content]
  obtain ⟨count, _, batched, batchLog, popped, singleLog, counted, batchRan, -, singleRan, -, -, same⟩ :=
    pops (.popBatch [] 9) (.popFor 1) [] 9 (.inl rfl) (.inr ⟨1, rfl⟩) some_
  rw [content] at counted
  subst counted
  exact ⟨final, log, ran, pushes _ (by simp) returned, batched, batchLog, popped, singleLog, batchRan, singleRan, same⟩

end Pirks.CircularBuffer
