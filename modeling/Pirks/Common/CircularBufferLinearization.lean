import Pirks.Foundation.Linearization
import Pirks.Common.CircularBufferFifo
import Pirks.Common.CircularBufferInterrupted

set_option autoImplicit false

namespace Pirks.CircularBuffer

open BoundedFifo Execution Monitor

variable {T : Type} {capacity : Nat}

abbrev Seen (T : Type) := Except Fault (Observation T)

def Agrees : Answer T → Seen T → Prop
  | answer, .ok observation => Matches answer observation
  | .error fault, .error expected => fault = expected
  | .ok _, .error _ => False

def offered : List (Source T) → List T × Except Fault Unit
  | [] => ([], .ok ())
  | .copies value :: rest => (value :: (offered rest).1, (offered rest).2)
  | .throws _ _ :: _ => ([], .error .copyThrew)

theorem offered_append (values : List T) (rest : List (Source T)) :
    offered (values.map .copies ++ rest) = (values ++ (offered rest).1, (offered rest).2) := by
  induction values with
  | nil => rfl
  | cons value values ih => simp [offered, ih]

def FifoState.pushes (state : FifoState T capacity) (elements : List (Source T)) : FifoState T capacity × Seen T :=
  (state.change (·.offerAll (offered elements).1),
    if state.stopped then .ok .done else (offered elements).2.map fun _ => .done)

variable {b : CircularBuffer T} {state : FifoState T capacity} {queue : List T}

-- In a vector that reserved exactly its size only a copy can end the loop early.
theorem storeAll_offers (holds : Holds (capacity + 1) (capacity + 1) b queue) (elements : List (Source T)) :
    ∃ b', perform (storeAll (capacity + 1) elements) ⟨b, false⟩ = ((offered elements).2, ⟨b', false⟩) ∧
      Holds (capacity + 1) (capacity + 1) b' ((queue ++ (offered elements).1).rtake capacity) ∧
      b'.active = b.active := by
  obtain ⟨values, rest, stored, result, b', rfl, -, held, active, ran, ends⟩ := storeAll_splits holds elements
  rw [offered_append]
  cases ends with
  | finished => exact ⟨stored, ran, by simpa [offered] using held, active⟩
  | threw value left rest inside => exact ⟨_, ran, by simpa [offered] using held.spoilEnd left, active⟩
  | refused element rest outside =>
    have inside := held.end_lt (Nat.succ_pos capacity)
    omega

theorem perform_pushSpan_offers (represents : Represents b state) (elements : List (Source T)) :
    ∃ b' notified, perform (pushSpan elements) ⟨b, false⟩ =
        (if state.stopped then .ok () else (offered elements).2, ⟨b', notified⟩) ∧
      Represents b' (state.pushes elements).1 := by
  have active := represents.active
  cases stopped : state.stopped with
  | true =>
    rw [stopped] at active
    refine ⟨b, false, by simp [pushSpan, perform_bind, show b.active = false from active], ?_⟩
    simpa [FifoState.pushes, FifoState.change, stopped] using represents
  | false =>
    rw [stopped] at active
    obtain ⟨b', ran, held, kept⟩ := storeAll_offers represents.holds elements
    have after : Represents b' (state.pushes elements).1 := by
      refine ⟨?_, ?_⟩
      · simpa [FifoState.pushes, FifoState.change, stopped, Fifo.offerAll] using held
      · simpa [FifoState.pushes, FifoState.change, stopped] using kept.trans active
    cases ended : (offered elements).2 with
    | ok _ =>
      refine ⟨b', true, ?_, after⟩
      simp [pushSpan, perform_bind, show b.active = true from active, represents.holds.capacity_eq, ran, ended]
    | error fault =>
      refine ⟨b', false, ?_, after⟩
      simp [pushSpan, perform_bind, show b.active = true from active, represents.holds.capacity_eq, ran, ended]

theorem pushes_agree (elements : List (Source T)) :
    Agrees ((if state.stopped then .ok () else (offered elements).2).map fun _ => Reply.done) (state.pushes elements).2 := by
  unfold FifoState.pushes
  cases state.stopped <;> cases (offered elements).2 <;> simp [Except.map, Agrees, Matches]

variable [Element T]

-- peek(delay) moves the oldest element out of its slot.
def FifoState.moveFront (state : FifoState T capacity) : FifoState T capacity :=
  state.change fun fifo => ⟨fifo.queue.modifyHead Element.movedFrom, by simpa using fifo.bounded⟩

/-- The interface on the queue; a call that has to wait is not answered, and isFull() asks for something else. -/
def FifoState.answer (state : FifoState T capacity) : Call T → Option (FifoState T capacity × Seen T)
  | .push element => some (state.pushes [element])
  | .pushSpan elements => some (state.pushes elements)
  | .peek => some (state, .ok (.element state.available.head?))
  | .peekFor _ =>
      if state.blocks then none else some (state.moveFront, .ok (.element state.available.head?))
  | .pop | .popFor _ =>
      if state.blocks then none else some (state.change (·.drop 1), .ok (.element state.available.head?))
  | .popBatch _ maxElements | .popBatchFor _ maxElements _ =>
      if state.blocks then none
      else some (state.change (·.drop maxElements), .ok (.batch (state.available.take maxElements)))
  | .isEmpty => some (state, .ok (.flag state.available.isEmpty))
  | .isFull => none
  | .stop => some ({ state with stopped := true }, .ok .done)

def nothingSeen : Call T → Observation T
  | .popBatchFor _ _ _ => .batch []
  | _ => .element none

def queueSpecification (T : Type) [Element T] (capacity : Nat) :
    Specification (CircularBuffer T) (Call T) (Answer T) (FifoState T capacity) (Seen T) where
  step state
    | (call, false) => (state.answer call).map fun (next, seen) => (next, [seen])
    | (call, true) => if timed call then some (state, [.ok (nothingSeen call)]) else none
  Matches := Agrees
  Represents := Represents

def Follows (b : CircularBuffer T) (state : FifoState T capacity) (call : Call T) (entry : Entry) : Prop :=
  ∀ reply, (program.critical call entry b).outcome = .returned reply →
    ∃ next seen, state.answer call = some (next, seen) ∧ Agrees reply seen ∧
      Represents (program.critical call entry b).shared next

theorem immediate_follows {A : Type} {call : Call T} {entry : Entry} {body : Critical T A} (reply : A → Reply T)
    (direct : dispatch call entry = immediate body reply) {result : Except Fault A} {b' : CircularBuffer T}
    {notified : Bool} (ran : perform body ⟨b, false⟩ = (result, ⟨b', notified⟩)) {next : FifoState T capacity}
    {seen : Seen T} (answer : state.answer call = some (next, seen)) (agrees : Agrees (result.map reply) seen)
    (after : Represents b' next) : Follows b state call entry := by
  intro given returned
  have left := critical_immediate reply direct b
  rw [ran] at left
  cases result <;> rw [left] at returned ⊢ <;> cases returned <;> exact ⟨next, seen, answer, agrees, after⟩

theorem blocking_follows {call : Call T} {blocking : Blocking T} {entry : Entry} (represents : Represents b state)
    (blocks : blocking? call = some blocking) (inTime : entry ≠ .resume true)
    (f : Fifo T capacity → Fifo T capacity) (observe : List T → Observation T)
    (answer : state.answer call =
      if state.blocks then none else some (state.change f, .ok (observe state.available)))
    (nothing : Matches (.ok blocking.nothing) (observe []))
    (body : state.fifo.queue ≠ [] → ∃ reply b', perform blocking.body ⟨b, false⟩ = (.ok reply, ⟨b', false⟩) ∧
      Holds (capacity + 1) (capacity + 1) b' (f state.fifo).queue ∧ b'.active = b.active ∧
      Matches (.ok reply) (observe state.fifo.queue)) : Follows b state call entry := by
  intro reply returned
  have active := represents.active
  cases stopped : state.stopped with
  | true =>
    rw [stopped] at active
    rw [critical_gaveUp blocks (.inr active)] at returned ⊢
    cases returned
    refine ⟨state, .ok (observe []), ?_, nothing, represents⟩
    simp [answer, FifoState.blocks, FifoState.change, FifoState.available, stopped]
  | false =>
    rw [stopped] at active
    by_cases empty : state.fifo.queue = []
    · rw [critical_slept blocks inTime active (represents.holds.empty_iff.mpr empty)] at returned
      cases returned
    · obtain ⟨given, b', ran, held, kept, fits⟩ := body empty
      rw [critical_available blocks inTime active (represents.holds.indices_apart empty) ran] at returned ⊢
      cases returned
      refine ⟨state.change f, .ok (observe state.fifo.queue), ?_, fits, ?_, ?_⟩
      · simp [answer, FifoState.blocks, FifoState.available, stopped, empty]
      · simpa [FifoState.change, stopped] using held
      · simpa [FifoState.change, stopped] using kept.trans active

theorem moveFront_delivers (represents : Represents b state) (nonempty : state.fifo.queue ≠ []) :
    ∃ reply b', perform moveFront ⟨b, false⟩ = (.ok reply, ⟨b', false⟩) ∧
      Holds (capacity + 1) (capacity + 1) b' (state.fifo.queue.modifyHead Element.movedFrom) ∧
      b'.active = b.active ∧ Matches (.ok reply) (.element state.fifo.queue.head?) := by
  have holds := represents.holds
  obtain ⟨first, rest, same⟩ := List.exists_cons_of_ne_nil nonempty
  rw [same] at holds ⊢
  have here : Holds (capacity + 1) (capacity + 1) (Locked.mk b false).buffer (first :: rest) := holds
  exact ⟨_, _, perform_moveFront here, holds.replaceFront _, rfl, rfl⟩

theorem call_follows (represents : Represents b state) {call : Call T} {entry : Entry} (queues : call ≠ .isFull)
    (inTime : entry ≠ .resume true) : Follows b state call entry := by
  have here : Holds (capacity + 1) (capacity + 1) (Locked.mk b false).buffer state.fifo.queue := represents.holds
  have active := represents.active
  cases call with
  | push element =>
    obtain ⟨b', notified, ran, after⟩ := perform_pushSpan_offers represents [element]
    rw [← push_eq_pushSpan] at ran
    exact immediate_follows (fun _ => .done) rfl ran rfl (pushes_agree [element]) after
  | pushSpan elements =>
    obtain ⟨b', notified, ran, after⟩ := perform_pushSpan_offers represents elements
    exact immediate_follows (fun _ => .done) rfl ran rfl (pushes_agree elements) after
  | peek =>
    refine immediate_follows .element rfl (perform_peek here) rfl ?_ represents
    cases stopped : state.stopped <;> simp [active, FifoState.available, stopped, Except.map, Agrees, Matches]
  | isEmpty =>
    refine immediate_follows .flag rfl (perform_isEmpty here) rfl ?_ represents
    cases stopped : state.stopped <;> simp [active, FifoState.available, stopped, Except.map, Agrees, Matches]
  | isFull => exact absurd rfl queues
  | stop =>
    have ran : perform stop ⟨b, false⟩ = (.ok (), ⟨{ b with active := false }, true⟩) := rfl
    exact immediate_follows (fun _ => .done) rfl ran rfl trivial ⟨represents.holds.stopped, rfl⟩
  | peekFor delay =>
    exact blocking_follows represents rfl inTime
      (fun fifo => ⟨fifo.queue.modifyHead Element.movedFrom, by simpa using fifo.bounded⟩)
      (fun items => .element items.head?) rfl rfl (moveFront_delivers represents)
  | pop =>
    exact blocking_follows represents rfl inTime (·.drop 1) (fun items => .element items.head?) rfl rfl
      (takeFront_delivers ⟨b, false⟩ _ here)
  | popFor delay =>
    exact blocking_follows represents rfl inTime (·.drop 1) (fun items => .element items.head?) rfl rfl
      (takeFront_delivers ⟨b, false⟩ _ here)
  | popBatch outBuffer maxElements =>
    exact blocking_follows represents rfl inTime (·.drop maxElements) (fun items => .batch (items.take maxElements))
      rfl (by simp [Matches, popBatch]) (takeBatch_delivers outBuffer maxElements ⟨b, false⟩ _ here)
  | popBatchFor outBuffer maxElements delay =>
    exact blocking_follows represents rfl inTime (·.drop maxElements) (fun items => .batch (items.take maxElements))
      rfl (by simp [Matches, popBatchFor]) (takeBatch_delivers outBuffer maxElements ⟨b, false⟩ _ here)

theorem waits_unchanged (represents : Represents b state) {call : Call T} {entry : Entry}
    (sleeps : (program.critical call entry b).outcome = .waits) : (program.critical call entry b).shared = b := by
  have effect := critical_effect represents.holds call entry
  generalize program.critical call entry b = result at effect sleeps ⊢
  cases effect with
  | slept => rfl
  | _ => cases sleeps

-- What a waiter does whose time is up does not depend on the queue.
theorem late_nothing {call : Call T} (patient : timed call = true) (b : CircularBuffer T) :
    ∃ reply, program.critical call (.resume true) b = ⟨b, false, .returned reply⟩ ∧
      Agrees reply (.ok (nothingSeen call)) := by
  cases call with
  | peekFor delay => exact ⟨_, critical_gaveUp rfl (.inl rfl), rfl⟩
  | popFor delay => exact ⟨_, critical_gaveUp rfl (.inl rfl), rfl⟩
  | popBatchFor outBuffer maxElements delay => exact ⟨_, critical_gaveUp rfl (.inl rfl), rfl, rfl⟩
  | _ => cases patient

theorem queue_simulates : (queueSpecification T capacity).Simulates program (· ≠ .isFull) := by
  rintro call entry before state queues legal represents
  refine ⟨waits_unchanged represents, fun reply returned => ?_⟩
  by_cases late : entry = .resume true
  · subst late
    have patient : timed call = true := legal rfl
    obtain ⟨given, left, agrees⟩ := late_nothing patient before
    rw [left] at returned ⊢
    cases returned
    exact ⟨state, .ok (nothingSeen call), by simp [queueSpecification, patient], agrees, represents⟩
  · obtain ⟨next, seen, answer, agrees, after⟩ := call_follows represents queues late reply returned
    exact ⟨next, seen, by simp [queueSpecification, late, answer], agrees, after⟩

theorem circularBuffer_linearizes (capacity : Nat) (representable : capacity + 1 < sizeModulus)
    (actions : List (Action (Call T))) (final : State (CircularBuffer T) (Call T))
    (log : List (Section (CircularBuffer T) (Call T) (Answer T)))
    (queues : ∀ action ∈ actions, action.Makes (· ≠ .isFull))
    (ran : Monitor.exec program (start (constructExact capacity)) actions = some (final, log)) :
    ∃ state expected, Linearizes (queueSpecification T capacity) (FifoState.start T capacity) final.shared log
      state expected :=
  exec_linearizes queue_simulates queues (start_represents representable) ran

theorem circularBuffer_linearizes_two_consumers :
    ∃ final log, Monitor.exec program (start (constructExact 2 : CircularBuffer Nat))
        [.enter 0 .pop, .enter 1 (.popFor 20), .enter 2 (.pushSpan [.copies 5, .copies 6, .throws 7 9]), .expire 1,
          .wake 0, .resume 0, .resume 1, .enter 2 .stop] = some (final, log) ∧
      ∃ state expected, Linearizes (queueSpecification Nat 2) (FifoState.start Nat 2) final.shared log
        state expected := by
  obtain ⟨final, log, ran⟩ : ∃ final log, Monitor.exec program (start (constructExact 2 : CircularBuffer Nat))
      [.enter 0 .pop, .enter 1 (.popFor 20), .enter 2 (.pushSpan [.copies 5, .copies 6, .throws 7 9]), .expire 1,
        .wake 0, .resume 0, .resume 1, .enter 2 .stop] = some (final, log) := ⟨_, _, rfl⟩
  refine ⟨final, log, ran, circularBuffer_linearizes 2 (by decide) _ final log ?_ ran⟩
  simp [Action.Makes]

end Pirks.CircularBuffer
