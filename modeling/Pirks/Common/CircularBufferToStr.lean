import Pirks.Foundation.OutputStream
import Pirks.Common.CircularBufferThreads

set_option autoImplicit false

namespace Pirks.CircularBuffer

open Execution OutputStream
open Monitor (Entry)

variable {T : Type}

def leftBrace : List UInt8 := [0x7B]

def rightBrace : List UInt8 := [0x7D]

def comma : List UInt8 := [0x2C]

-- The loop runs until it meets endIndex_; there is no answer when the fuel is spent before.
def putItems (insertion : Insertion T) (sz : Nat) :
    Nat → Nat → Bool → OutputStream → Critical T (Option OutputStream)
  | 0, _, _, _ => return none
  | fuel + 1, index, isFirst, output => do
      if index = (← current).endIndex then return some output
      else
        let output := if isFirst then output else output.put comma
        let item ← vectorAt index
        let output := insertion.insert item output
        let index ← advance sz index
        putItems insertion sz fuel index false output

def circularBufferToStr (insertion : Insertion T) (fuel : Nat) : Critical T (Option (List UInt8)) := do
  let output := OutputStream.initial.put leftBrace
  let sz := (← current).buffer.capacity
  let index := (← current).startIndex
  match ← putItems insertion sz fuel index true output with
  | none => return none
  | some output => return some (output.put rightBrace).text

def separated (render : T → List UInt8) : Bool → List T → List UInt8
  | _, [] => []
  | isFirst, item :: rest => (if isFirst then [] else comma) ++ (render item ++ separated render false rest)

theorem separated_eq (render : T → List UInt8) (items : List T) :
    separated render true items = List.intercalate comma (items.map render) := by
  have later (item : T) (rest : List T) :
      render item ++ separated render false rest = List.intercalate comma ((item :: rest).map render) := by
    induction rest generalizing item with
    | nil => simp [separated]
    | cons next rest ih =>
      have joined := ih next
      simp only [List.map_cons] at joined ⊢
      rw [List.intercalate_cons_cons, ← joined, separated, List.append_assoc]
      rfl
  cases items with
  | nil => rfl
  | cons item rest => exact later item rest

variable {size capacity : Nat} {queue : List T} {locked : Locked T}

theorem Holds.item {b : CircularBuffer T} (holds : Holds size capacity b queue) {offset : Nat}
    (within : offset < queue.length) :
    (b.startIndex + offset) % capacity ≠ b.endIndex ∧ 0 < capacity ∧
      b.buffer.elements[(b.startIndex + offset) % capacity]? = some queue[offset] ∧
      next capacity ((b.startIndex + offset) % capacity) = (b.startIndex + (offset + 1)) % capacity := by
  have inside := holds.start_lt
  have bounded := holds.length_lt
  have positive : 0 < capacity := by omega
  refine ⟨?_, positive, holds.window offset within, ?_⟩
  · intro met
    rw [holds.end_eq] at met
    have same := CircularCells.wrap_injective (by omega) (by omega) (by omega) met
    omega
  · rw [next_eq (Nat.mod_lt _ positive) holds.representable, CircularCells.wrap_snoc]

theorem perform_putItems (insertion : Insertion T) (holds : Holds size capacity locked.buffer queue)
    {fuel offset : Nat} (within : offset ≤ queue.length) (enough : queue.length - offset < fuel)
    (isFirst : Bool) {output : OutputStream} (plain : output.Plain) :
    perform (putItems insertion capacity fuel ((locked.buffer.startIndex + offset) % capacity) isFirst output)
        locked =
      (.ok (some (output.append (separated insertion.render isFirst (queue.drop offset)))), locked) := by
  induction fuel generalizing offset isFirst output with
  | zero => omega
  | succ fuel ih =>
    by_cases last : offset = queue.length
    next =>
      have met : (locked.buffer.startIndex + offset) % capacity = locked.buffer.endIndex := by
        rw [last, holds.end_eq]
      have none_ : queue.drop offset = [] := List.drop_of_length_le (by omega)
      simp [putItems, perform_bind, met, none_, separated, OutputStream.append]
    next =>
      have inside : offset < queue.length := by omega
      obtain ⟨apart, positive, found, stepped⟩ := holds.item inside
      have comma_ : (if isFirst then output else output.put comma) =
          output.append (if isFirst then [] else comma) := by
        cases isFirst with
        | true => simp [OutputStream.append]
        | false => simp [plain.put_eq]
      have inserted := insertion.inserts queue[offset] _ (plain.append (if isFirst then [] else comma))
      have plain' := (plain.append (if isFirst then [] else comma)).append (insertion.render queue[offset])
      have bound : offset + 1 ≤ queue.length := inside
      have later := ih bound (by omega) false plain'
      rw [← stepped] at later
      rw [putItems, perform_bind, perform_current]
      simp only [if_neg apart, comma_]
      rw [perform_bind, perform_vectorAt found]
      simp only [inserted]
      rw [perform_bind, perform_advance positive]
      simp only []
      rw [later, append_append, append_append, List.drop_eq_getElem_cons inside, separated]

theorem perform_circularBufferToStr (insertion : Insertion T) (holds : Holds size capacity locked.buffer queue)
    {fuel : Nat} (enough : queue.length < fuel) :
    perform (circularBufferToStr insertion fuel) locked =
      (.ok (some (leftBrace ++ List.intercalate comma (queue.map insertion.render) ++ rightBrace)), locked) := by
  have plain : OutputStream.initial.Plain := ⟨rfl, rfl, rfl⟩
  have inside := holds.start_lt
  have first : (locked.buffer.startIndex + 0) % capacity = locked.buffer.startIndex := by
    rcases Nat.eq_zero_or_pos capacity with rfl | positive
    next => exact Nat.mod_zero _
    next => exact Nat.mod_eq_of_lt (by omega)
  have listed := perform_putItems insertion holds (Nat.zero_le queue.length) (by omega) true
    (plain.append leftBrace)
  rw [first, List.drop_zero, separated_eq, append_append] at listed
  rw [circularBufferToStr, plain.put_eq, perform_bind, perform_current]
  simp only [perform_bind, perform_current, holds.capacity_eq, listed, perform_pure]
  rw [(plain.append _).put_eq]
  rfl

section Draining

variable [Element T]

theorem critical_pop {b : CircularBuffer T} {first : T} {rest : List T}
    (holds : Holds size capacity b (first :: rest)) (active : b.active = true) :
    program.critical .pop .enter b =
      ⟨afterTake b (Element.movedFrom first), false, .returned (.ok (.element (some first)))⟩ := by
  have here : Holds size capacity (Locked.mk b false).buffer (first :: rest) := holds
  have blocks : blocking? (.pop : Call T) = some pop := rfl
  have apart := holds.indices_apart (List.cons_ne_nil first rest)
  exact critical_available blocks Entry.enter_inTime active apart (perform_takeFront here)

theorem exec_pops {state : Monitor.State (CircularBuffer T) (Call T)} {thread : Nat}
    (holds : Holds size capacity state.shared queue) (active : state.shared.active = true)
    (idle : state.phase thread = .idle) :
    ∃ drained log, Monitor.exec program state (List.replicate queue.length (.enter thread .pop)) =
        some (drained, log) ∧
      log.map (fun popped => popped.result.outcome) =
        queue.map fun element => .returned (.ok (.element (some element))) := by
  induction queue generalizing state with
  | nil => exact ⟨state, [], rfl, rfl⟩
  | cons first rest ih =>
    have popped := critical_pop holds active
    have after : Holds size capacity (Monitor.commit program state thread .pop .enter).shared rest := by
      rw [Monitor.commit_shared, popped]
      exact holds.afterTake _
    have still : (Monitor.commit program state thread .pop .enter).shared.active = true := by
      rw [Monitor.commit_shared, popped]
      exact active
    have free : (Monitor.commit program state thread .pop .enter).phase thread = .idle := by
      rw [Monitor.commit_phase_self, popped]
      rfl
    obtain ⟨drained, log, ran, replies⟩ := ih after still free
    refine ⟨drained, [Monitor.executed program state thread .pop .enter] ++ log, ?_, ?_⟩
    · exact Machine.run_cons.mpr ⟨_, _, log, by simp [Monitor.step, idle], ran, rfl⟩
    · simp [Monitor.executed, popped, replies]

theorem toStr_prints_unread (insertion : Insertion T) {c : Nat} {reserved : Reserved ((c + 1) % sizeModulus)} {actions : List (Monitor.Action (Call T))}
    {final : Monitor.State (CircularBuffer T) (Call T)}
    {log : List (Monitor.Section (CircularBuffer T) (Call T) (Answer T))}
    (ran : Monitor.exec program (Monitor.start (construct c reserved)) actions = some (final, log)) :
    (∀ fuel, (unread final.shared).length < fuel →
      perform (circularBufferToStr insertion fuel) ⟨final.shared, false⟩ =
        (.ok (some (leftBrace ++ List.intercalate comma ((unread final.shared).map insertion.render) ++
          rightBrace)), ⟨final.shared, false⟩)) ∧
      ∀ thread, final.shared.active = true → final.phase thread = .idle →
        ∃ drained popLog, Monitor.exec program final
            (List.replicate (unread final.shared).length (.enter thread .pop)) = some (drained, popLog) ∧
          popLog.map (fun popped => popped.result.outcome) =
            (unread final.shared).map fun element => .returned (.ok (.element (some element))) := by
  obtain ⟨queue, holds⟩ := exec_holds ran
  rw [holds.unread_eq]
  constructor
  · intro fuel enough
    have here : Holds _ _ (Locked.mk final.shared false).buffer queue := holds
    exact perform_circularBufferToStr insertion here enough
  · intro thread active idle
    exact exec_pops holds active idle

theorem toStr_prints_unread_overwrite :
    ∃ final log, Monitor.exec program (Monitor.start (constructExact 3))
        [.enter 0 (.pushSpan ([1, 2, 3, 4].map .copies))] = some (final, log) ∧
      perform (circularBufferToStr Insertion.natural 4) ⟨final.shared, false⟩ =
        (.ok (some (leftBrace ++ List.intercalate comma ([2, 3, 4].map (digits 10)) ++ rightBrace)),
          ⟨final.shared, false⟩) ∧
      ∃ drained popLog, Monitor.exec program final (List.replicate 3 (.enter 1 .pop)) = some (drained, popLog) ∧
        popLog.map (fun popped => popped.result.outcome) =
          [2, 3, 4].map fun element => .returned (.ok (.element (some element))) := by
  obtain ⟨final, log, ran, content, active, idle⟩ :
      ∃ final log, Monitor.exec program (Monitor.start (constructExact 3 : CircularBuffer Nat))
          [.enter 0 (.pushSpan ([1, 2, 3, 4].map .copies))] = some (final, log) ∧
        unread final.shared = [2, 3, 4] ∧ final.shared.active = true ∧ final.phase 1 = .idle :=
    ⟨_, _, rfl, rfl, rfl, rfl⟩
  obtain ⟨printed, popped⟩ := toStr_prints_unread Insertion.natural ran
  rw [content] at printed popped
  exact ⟨final, log, ran, printed 4 (by decide), popped 1 active idle⟩

end Draining

end Pirks.CircularBuffer
