import Pirks.Common.CircularBufferThreads

set_option autoImplicit false

namespace Pirks.CircularBuffer

open BoundedFifo Execution
open Monitor (Entry)

variable {T : Type}

/-- What the buffer is for: a bounded queue that drops its oldest elements, until it is stopped. -/
structure FifoState (T : Type) (capacity : Nat) where
  fifo : Fifo T capacity
  stopped : Bool

inductive FifoCall (T : Type) where
  | push (element : T)
  | pushSpan (elements : List T)
  | peek
  | pop
  | popFor (delay : Int)
  | popBatch (outBuffer : List T) (maxElements : Nat)
  | popBatchFor (outBuffer : List T) (maxElements : Nat) (delay : Int)
  | isEmpty
  | stop

def FifoCall.call : FifoCall T → Call T
  | .push element => .push (.copies element)
  | .pushSpan elements => .pushSpan (elements.map .copies)
  | .peek => .peek
  | .pop => .pop
  | .popFor delay => .popFor delay
  | .popBatch outBuffer maxElements => .popBatch outBuffer maxElements
  | .popBatchFor outBuffer maxElements delay => .popBatchFor outBuffer maxElements delay
  | .isEmpty => .isEmpty
  | .stop => .stop

inductive Observation (T : Type) where
  | done
  | element (value : Option T)
  | batch (taken : List T)
  | flag (value : Bool)

variable {capacity : Nat}

def FifoState.start (T : Type) (capacity : Nat) : FifoState T capacity := ⟨Fifo.empty T capacity, false⟩

def FifoState.available (state : FifoState T capacity) : List T :=
  if state.stopped then [] else state.fifo.queue

def FifoState.change (state : FifoState T capacity) (f : Fifo T capacity → Fifo T capacity) :
    FifoState T capacity :=
  if state.stopped then state else { state with fifo := f state.fifo }

def FifoState.blocks (state : FifoState T capacity) : Bool :=
  !state.stopped && state.fifo.queue.isEmpty

-- An untimed pop on an empty active queue is the only call that is not answered.
def FifoState.step (state : FifoState T capacity) :
    FifoCall T → Option (FifoState T capacity × List (Observation T))
  | .push element => some (state.change (·.offer element), [.done])
  | .pushSpan elements => some (state.change (·.offerAll elements), [.done])
  | .peek => some (state, [.element state.available.head?])
  | .pop =>
      if state.blocks then none
      else some (state.change (·.drop 1), [.element state.available.head?])
  | .popFor _ => some (state.change (·.drop 1), [.element state.available.head?])
  | .popBatch _ maxElements =>
      if state.blocks then none
      else some (state.change (·.drop maxElements), [.batch (state.available.take maxElements)])
  | .popBatchFor _ maxElements _ =>
      some (state.change (·.drop maxElements), [.batch (state.available.take maxElements)])
  | .isEmpty => some (state, [.flag state.available.isEmpty])
  | .stop => some ({ state with stopped := true }, [.done])

def Matches : Answer T → Observation T → Prop
  | .ok .done, .done => True
  | .ok (.element value), .element expected => value = expected
  | .ok (.batch count outBuffer), .batch taken => count = taken.length ∧ outBuffer.take count = taken
  | .ok (.flag value), .flag expected => value = expected
  | _, _ => False

structure Represents (b : CircularBuffer T) (state : FifoState T capacity) : Prop where
  holds : Holds (capacity + 1) (capacity + 1) b state.fifo.queue
  active : b.active = !state.stopped

theorem pushSpan_simulates {b : CircularBuffer T} {state : FifoState T capacity}
    (related : Represents b state) (elements : List T) :
    ∃ b' notified, perform (pushSpan (elements.map .copies)) ⟨b, false⟩ = (.ok (), ⟨b', notified⟩) ∧
      Represents b' (state.change (·.offerAll elements)) := by
  have active := related.active
  cases stopped : state.stopped with
  | true =>
    rw [stopped] at active
    refine ⟨b, false, ?_, ?_⟩
    · simp [pushSpan, perform_bind, show b.active = false from active]
    · simpa [FifoState.change, stopped] using related
  | false =>
    rw [stopped] at active
    have holds : Holds _ _ (Locked.mk b false).buffer _ := related.holds
    obtain ⟨b', ran, held, kept⟩ := perform_storeAll_copies holds (Nat.succ_pos _) elements
    refine ⟨b', true, ?_, ⟨?_, ?_⟩⟩
    · simp [pushSpan, perform_bind, show b.active = true from active, related.holds.capacity_eq, ran, Locked.put]
    · simpa [FifoState.change, stopped, Fifo.offerAll] using held
    · simpa [FifoState.change, stopped] using kept.trans active

section Calls

variable [Element T]

-- One call of a thread that is alone: waiting, it sleeps until its timeout, if it has one.
def callOnce (b : CircularBuffer T) (call : Call T) : Option (CircularBuffer T × List (Answer T)) :=
  let entered := program.critical call .enter b
  match entered.outcome with
  | .returned answer => some (entered.shared, [answer])
  | .waits =>
      if timed call then
        let resumed := program.critical call (.resume true) entered.shared
        match resumed.outcome with
        | .returned answer => some (resumed.shared, [answer])
        | .waits => none
      else none

theorem callOnce_immediate {A : Type} {call : Call T} {body : Critical T A} (reply : A → Reply T)
    (direct : ∀ entry, dispatch call entry = immediate body reply) {b b' : CircularBuffer T}
    {value : A} {notified : Bool} (ran : perform body ⟨b, false⟩ = (.ok value, ⟨b', notified⟩)) :
    callOnce b call = some (b', [.ok (reply value)]) := by
  have left := critical_immediate reply (direct .enter) b
  simp [callOnce, left, ran]

section Blocking

variable {call : Call T} {blocking : Blocking T} {b : CircularBuffer T}

theorem callOnce_stopped (blocks : blocking? call = some blocking) (stopped : b.active = false) :
    callOnce b call = some (b, [.ok blocking.nothing]) := by
  have left : program.critical call .enter b = _ := critical_gaveUp blocks (.inr stopped)
  simp [callOnce, left]

theorem callOnce_timeout (blocks : blocking? call = some blocking) (active : b.active = true)
    (empty : b.startIndex = b.endIndex) (patient : timed call = true) :
    callOnce b call = some (b, [.ok blocking.nothing]) := by
  have asleep := critical_slept blocks Entry.enter_inTime active empty
  have late : program.critical call (.resume true) b = _ := critical_gaveUp blocks (.inl rfl)
  simp [callOnce, asleep, late, patient]

theorem callOnce_available (blocks : blocking? call = some blocking) (active : b.active = true)
    (available : b.startIndex ≠ b.endIndex) {reply : Reply T} {after : Locked T}
    (ran : perform blocking.body ⟨b, false⟩ = (.ok reply, after)) :
    callOnce b call = some (after.buffer, [.ok reply]) := by
  have left := critical_available blocks Entry.enter_inTime active available ran
  simp [callOnce, left]

theorem blocking_simulates (call : Call T) (blocking : Blocking T) {state : FifoState T capacity}
    (related : Represents b state) (blocks : blocking? call = some blocking) (count : Nat)
    (observe : List T → Observation T) (nothing : Matches (.ok blocking.nothing) (observe []))
    (body : ∀ locked : Locked T, ∀ queue : List T,
      Holds (capacity + 1) (capacity + 1) locked.buffer queue → queue ≠ [] →
      ∃ reply b', perform blocking.body locked = (.ok reply, locked.put b') ∧
        Holds (capacity + 1) (capacity + 1) b' (queue.drop count) ∧
        b'.active = locked.buffer.active ∧ Matches (.ok reply) (observe queue))
    (patient : state.blocks = true → timed call = true) :
    ∃ b' answers, callOnce b call = some (b', answers) ∧
      Represents b' (state.change (·.drop count)) ∧
      List.Forall₂ Matches answers [observe state.available] := by
  have active := related.active
  cases stopped : state.stopped with
  | true =>
    rw [stopped] at active
    refine ⟨b, _, callOnce_stopped blocks active, ?_, .cons ?_ .nil⟩
    · simpa [FifoState.change, stopped] using related
    · simpa [FifoState.available, stopped] using nothing
  | false =>
    rw [stopped] at active
    by_cases empty : state.fifo.queue = []
    · have same := related.holds.empty_iff.mpr empty
      have timed := patient (by simp [FifoState.blocks, stopped, empty])
      refine ⟨b, _, callOnce_timeout blocks active same timed, ?_, .cons ?_ .nil⟩
      · refine ⟨?_, by simpa [FifoState.change, stopped] using active⟩
        simpa [FifoState.change, stopped, Fifo.drop, empty] using related.holds
      · simpa [FifoState.available, stopped, empty] using nothing
    · have apart := related.holds.indices_apart empty
      obtain ⟨reply, b', ran, held, kept, matched⟩ :=
        body ⟨b, false⟩ state.fifo.queue related.holds empty
      refine ⟨b', _, callOnce_available blocks active apart ran, ⟨?_, ?_⟩, .cons ?_ .nil⟩
      · simpa [FifoState.change, stopped, Fifo.drop] using held
      · simpa [FifoState.change, stopped] using kept.trans active
      · simpa [FifoState.available, stopped] using matched

end Blocking

theorem takeFront_delivers (locked : Locked T) (queue : List T)
    (holds : Holds (capacity + 1) (capacity + 1) locked.buffer queue) (nonempty : queue ≠ []) :
    ∃ reply b', perform takeFront locked = (.ok reply, locked.put b') ∧
      Holds (capacity + 1) (capacity + 1) b' (queue.drop 1) ∧ b'.active = locked.buffer.active ∧
      Matches (.ok reply) (.element queue.head?) := by
  obtain ⟨first, rest, rfl⟩ := List.exists_cons_of_ne_nil nonempty
  exact ⟨_, _, perform_takeFront holds, holds.afterTake _, rfl, rfl⟩

theorem takeBatch_delivers (outBuffer : List T) (maxElements : Nat) (locked : Locked T) (queue : List T)
    (holds : Holds (capacity + 1) (capacity + 1) locked.buffer queue) (nonempty : queue ≠ []) :
    ∃ reply b', perform (takeBatch outBuffer maxElements) locked = (.ok reply, locked.put b') ∧
      Holds (capacity + 1) (capacity + 1) b' (queue.drop maxElements) ∧
      b'.active = locked.buffer.active ∧ Matches (.ok reply) (.batch (queue.take maxElements)) := by
  obtain ⟨outBuffer', b', ran, held, ⟨active, -⟩, -, written⟩ :=
    perform_takeBatch outBuffer maxElements holds nonempty
  exact ⟨_, b', ran, held, active, by simp, written⟩

theorem step_simulates {b : CircularBuffer T} {state state' : FifoState T capacity}
    {call : FifoCall T} {expected : List (Observation T)} (related : Represents b state)
    (taken : state.step call = some (state', expected)) :
    ∃ b' answers, callOnce b call.call = some (b', answers) ∧ Represents b' state' ∧
      List.Forall₂ Matches answers expected := by
  have active := related.active
  cases call with
  | push element =>
    cases taken
    obtain ⟨b', notified, ran, after⟩ := pushSpan_simulates related [element]
    have single : perform (push (.copies element)) ⟨b, false⟩ = (.ok (), ⟨b', notified⟩) := by
      rw [push_eq_pushSpan]
      simpa using ran
    exact ⟨b', _, callOnce_immediate (fun _ => .done) (fun _ => rfl) single, after, .cons trivial .nil⟩
  | pushSpan elements =>
    cases taken
    obtain ⟨b', notified, ran, after⟩ := pushSpan_simulates related elements
    exact ⟨b', _, callOnce_immediate (fun _ => .done) (fun _ => rfl) ran, after, .cons trivial .nil⟩
  | peek =>
    cases taken
    have here : Holds _ _ (Locked.mk b false).buffer state.fifo.queue := related.holds
    have ran : perform peek ⟨b, false⟩ = (.ok state.available.head?, ⟨b, false⟩) := by
      rw [perform_peek here]
      cases stopped : state.stopped <;> simp [active, FifoState.available, stopped]
    exact ⟨b, _, callOnce_immediate .element (fun _ => rfl) ran, related, .cons rfl .nil⟩
  | pop =>
    simp only [FifoState.step] at taken
    split at taken
    · cases taken
    next ready =>
      cases taken
      exact blocking_simulates .pop pop related rfl 1
        (fun queue => .element queue.head?) rfl takeFront_delivers (fun blocks => absurd blocks ready)
  | popFor delay =>
    cases taken
    exact blocking_simulates (.popFor delay) (popFor delay) related rfl 1
      (fun queue => .element queue.head?) rfl takeFront_delivers (fun _ => rfl)
  | popBatch outBuffer maxElements =>
    simp only [FifoState.step] at taken
    split at taken
    · cases taken
    next ready =>
      cases taken
      exact blocking_simulates (.popBatch outBuffer maxElements) (popBatch outBuffer maxElements)
        related rfl maxElements
        (fun queue => .batch (queue.take maxElements)) (by simp [Matches, popBatch])
        (takeBatch_delivers outBuffer maxElements) (fun blocks => absurd blocks ready)
  | popBatchFor outBuffer maxElements delay =>
    cases taken
    exact blocking_simulates (.popBatchFor outBuffer maxElements delay)
      (popBatchFor outBuffer maxElements delay) related rfl maxElements
      (fun queue => .batch (queue.take maxElements)) (by simp [Matches, popBatchFor])
      (takeBatch_delivers outBuffer maxElements) (fun _ => rfl)
  | isEmpty =>
    cases taken
    have here : Holds _ _ (Locked.mk b false).buffer state.fifo.queue := related.holds
    have ran : perform isEmpty ⟨b, false⟩ = (.ok state.available.isEmpty, ⟨b, false⟩) := by
      rw [perform_isEmpty here]
      cases stopped : state.stopped <;> simp [active, FifoState.available, stopped]
    exact ⟨b, _, callOnce_immediate .flag (fun _ => rfl) ran, related, .cons rfl .nil⟩
  | stop =>
    cases taken
    have ran : perform stop ⟨b, false⟩ = (.ok (), ⟨{ b with active := false }, true⟩) := rfl
    exact ⟨_, _, callOnce_immediate (fun _ => .done) (fun _ => rfl) ran,
      ⟨related.holds.stopped, rfl⟩, .cons trivial .nil⟩

theorem start_represents {capacity : Nat} (representable : capacity + 1 < sizeModulus) :
    Represents (constructExact capacity : CircularBuffer T) (FifoState.start T capacity) := by
  have holds : Holds ((capacity + 1) % sizeModulus) ((capacity + 1) % sizeModulus)
      (constructExact capacity : CircularBuffer T) [] :=
    construct_holds capacity (.exact _ (Nat.mod_lt _ (Nat.two_pow_pos 64)))
  rw [Nat.mod_eq_of_lt representable] at holds
  exact ⟨holds, rfl⟩

abbrev runAlone := Machine.run fun (b : CircularBuffer T) (call : FifoCall T) => callOnce b call.call

theorem circularBuffer_refines_fifo (capacity : Nat) (representable : capacity + 1 < sizeModulus)
    (calls : List (FifoCall T)) (final : FifoState T capacity) (expected : List (Observation T))
    (answered : Machine.run FifoState.step (FifoState.start T capacity) calls = some (final, expected)) :
    ∃ b answers,
      runAlone (constructExact capacity) calls = some (b, answers) ∧
      Represents b final ∧ List.Forall₂ Matches answers expected := by
  refine Machine.run_simulates Represents Matches ?_ (start_represents representable) answered
  intro b state call state' expected related taken
  exact step_simulates related taken

theorem circularBuffer_refines_fifo_overwrite :
    ∃ b answers,
      runAlone (constructExact 3)
        [.pushSpan [1, 2, 3, 4, 5], .popBatch [9] 2, .pop, .popFor 20, .stop, .pop] =
          some (b, answers) ∧
      Represents b (⟨⟨[], Nat.zero_le 3⟩, true⟩ : FifoState Nat 3) ∧
      List.Forall₂ Matches answers
        [.done, .batch [3, 4], .element (some 5), .element none, .done, .element none] :=
  circularBuffer_refines_fifo 3 (by decide) _ _ _ rfl

end Calls

end Pirks.CircularBuffer
