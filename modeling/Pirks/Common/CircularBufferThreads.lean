import Pirks.Common.CircularBufferSections

set_option autoImplicit false

namespace Pirks

def Call.elements? {T : Type} : Call T → Option (List (Source T))
  | .push element => some [element]
  | .pushSpan elements => some elements
  | _ => none

namespace CircularBuffer

open Execution
open Monitor (Entry)

variable {T : Type}

theorem push_eq_pushSpan (element : Source T) (locked : Locked T) :
    perform (push element) locked = perform (pushSpan [element]) locked := by
  cases active : locked.buffer.active
  · simp [push, pushSpan, perform_bind, active]
  · rcases stored : perform (store locked.buffer.buffer.capacity element) locked with ⟨_ | _, _⟩ <;>
      simp [push, pushSpan, storeAll, perform_bind, active, stored]

def blocking? [Element T] : Call T → Option (Blocking T)
  | .peekFor delay => some (peekFor delay)
  | .pop => some pop
  | .popFor delay => some (popFor delay)
  | .popBatch outBuffer maxElements => some (popBatch outBuffer maxElements)
  | .popBatchFor outBuffer maxElements delay => some (popBatchFor outBuffer maxElements delay)
  | _ => none

theorem blocking_pushes_nothing [Element T] {call : Call T} {blocking : Blocking T}
    (blocks : blocking? call = some blocking) : call.elements? = none := by
  cases call <;> simp_all [blocking?, Call.elements?]

variable {size capacity : Nat} {b : CircularBuffer T} {queue : List T}

theorem storeAll_cases (holds : Holds size capacity b queue) (elements : List (Source T)) :
    ∃ result b' queue', perform (storeAll capacity elements) ⟨b, false⟩ = (result, ⟨b', false⟩) ∧
      Holds size capacity b' queue' ∧ b'.active = b.active := by
  induction elements generalizing b queue with
  | nil => exact ⟨.ok (), b, queue, rfl, holds, rfl⟩
  | cons element elements ih =>
    have here : Holds size capacity (Locked.mk b false).buffer queue := holds
    rcases perform_store_cases here element with
      ⟨value, rfl, stored, ran⟩ | ⟨fault, b', ran, held, active, -⟩
    · obtain ⟨result, b', queue', followed, held, active⟩ := ih (holds.afterStore stored value)
      exact ⟨result, b', queue', by simpa [storeAll, perform_bind, ran, Locked.put] using followed, held, active⟩
    · exact ⟨.error fault, b', queue, by simp [storeAll, perform_bind, ran, Locked.put], held, active⟩

section Sections

variable [Element T]

/-- All that one critical section of a call can do to a buffer that holds `queue`. -/
inductive Effect (capacity : Nat) (b : CircularBuffer T) (queue : List T) (call : Call T) (entry : Entry) :
    Monitor.Result (CircularBuffer T) (Answer T) → Prop where
  | refused (elements : List (Source T)) (pushes : call.elements? = some elements)
      (stopped : b.active = false) : Effect capacity b queue call entry ⟨b, false, .returned (.ok .done)⟩
  | pushed (elements : List (Source T)) (b' : CircularBuffer T)
      (pushes : call.elements? = some elements) (active : b.active = true)
      (ran : perform (storeAll capacity elements) ⟨b, false⟩ = (.ok (), ⟨b', false⟩)) :
      Effect capacity b queue call entry ⟨b', true, .returned (.ok .done)⟩
  | threw (elements : List (Source T)) (fault : Fault) (b' : CircularBuffer T)
      (pushes : call.elements? = some elements) (active : b.active = true)
      (ran : perform (storeAll capacity elements) ⟨b, false⟩ = (.error fault, ⟨b', false⟩)) :
      Effect capacity b queue call entry ⟨b', false, .returned (.error fault)⟩
  | observed (reply : Reply T) (looks : call = .peek ∨ call = .isEmpty ∨ call = .isFull)
      (divides : call = .isFull → b.active = true → 0 < capacity) :
      Effect capacity b queue call entry ⟨b, false, .returned (.ok reply)⟩
  | divided (asks : call = .isFull) (active : b.active = true) (zero : capacity = 0) :
      Effect capacity b queue call entry ⟨b, false, .returned (.error .divideByZero)⟩
  | ended (stops : call = .stop) :
      Effect capacity b queue call entry ⟨{ b with active := false }, true, .returned (.ok .done)⟩
  | gaveUp (blocking : Blocking T) (blocks : blocking? call = some blocking)
      (cause : entry = .resume true ∨ b.active = false) :
      Effect capacity b queue call entry ⟨b, false, .returned (.ok blocking.nothing)⟩
  | slept (blocking : Blocking T) (blocks : blocking? call = some blocking)
      (inTime : entry ≠ .resume true) (active : b.active = true) (empty : queue = []) :
      Effect capacity b queue call entry ⟨b, false, .waits⟩
  | peeked (delay : Int) (looks : call = .peekFor delay) (first : T) (rest : List T)
      (inTime : entry ≠ .resume true) (active : b.active = true) (available : queue = first :: rest) :
      Effect capacity b queue call entry
        ⟨{ b with buffer := b.buffer.set b.startIndex (Element.movedFrom first) }, false,
          .returned (.ok (.element (some first)))⟩
  | took (pops : call = .pop ∨ ∃ delay, call = .popFor delay) (first : T) (rest : List T)
      (inTime : entry ≠ .resume true) (active : b.active = true) (available : queue = first :: rest) :
      Effect capacity b queue call entry
        ⟨afterTake b (Element.movedFrom first), false, .returned (.ok (.element (some first)))⟩
  | tookBatch (outBuffer : List T) (maxElements : Nat)
      (pops : call = .popBatch outBuffer maxElements ∨
        ∃ delay, call = .popBatchFor outBuffer maxElements delay)
      (outBuffer' : List T) (b' : CircularBuffer T) (inTime : entry ≠ .resume true)
      (active : b.active = true) (available : queue ≠ [])
      (ran : perform (takeBatch outBuffer maxElements) ⟨b, false⟩ =
        (.ok (.batch (min maxElements queue.length) outBuffer'), ⟨b', false⟩))
      (written : outBuffer'.take (min maxElements queue.length) = queue.take maxElements) :
      Effect capacity b queue call entry
        ⟨b', false, .returned (.ok (.batch (min maxElements queue.length) outBuffer'))⟩

variable {call : Call T} {entry : Entry}

theorem critical_immediate {A : Type} {body : Critical T A} (reply : A → Reply T)
    (direct : dispatch call entry = immediate body reply) (b : CircularBuffer T) :
    program.critical call entry b =
      match perform body ⟨b, false⟩ with
      | (.ok value, after) => ⟨after.buffer, after.notified, .returned (.ok (reply value))⟩
      | (.error fault, after) => ⟨after.buffer, after.notified, .returned (.error fault)⟩ := by
  rcases ran : perform body ⟨b, false⟩ with ⟨_ | _, after⟩ <;>
    simp [program, direct, immediate, perform_map, ran, finish]

theorem dispatch_blocking {blocking : Blocking T} (blocks : blocking? call = some blocking)
    (entry : Entry) : dispatch call entry = blocking.section entry := by
  cases call <;> simp only [blocking?, Option.some.injEq, reduceCtorEq] at blocks <;> subst blocks <;> rfl

theorem pushSpan_effect (holds : Holds size capacity b queue) (elements : List (Source T))
    (pushes : call.elements? = some elements)
    (direct : ∃ body, dispatch call entry = immediate body (fun _ : Unit => .done) ∧
      perform body ⟨b, false⟩ = perform (pushSpan elements) ⟨b, false⟩) :
    Effect capacity b queue call entry (program.critical call entry b) := by
  obtain ⟨body, same, ran⟩ := direct
  rw [critical_immediate _ same, ran]
  cases active : b.active with
  | false => simpa [pushSpan, perform_bind, active] using Effect.refused elements pushes active
  | true =>
    obtain ⟨result, b', -, stored, -, -⟩ := storeAll_cases holds elements
    cases result with
    | ok _ =>
      simpa [pushSpan, perform_bind, active, holds.capacity_eq, stored] using
        Effect.pushed elements b' pushes active stored
    | error fault =>
      simpa [pushSpan, perform_bind, active, holds.capacity_eq, stored] using
        Effect.threw elements fault b' pushes active stored

theorem critical_gaveUp {blocking : Blocking T} (blocks : blocking? call = some blocking)
    (cause : entry = .resume true ∨ b.active = false) :
    program.critical call entry b = ⟨b, false, .returned (.ok blocking.nothing)⟩ := by
  have direct := dispatch_blocking blocks entry
  rcases cause with rfl | stopped
  · simp [program, direct, perform_section_timeout, finish]
  · simp [program, direct, perform_section_stopped blocking entry ⟨b, false⟩ stopped, finish]

theorem critical_slept {blocking : Blocking T} (blocks : blocking? call = some blocking)
    (inTime : entry ≠ .resume true) (active : b.active = true) (empty : b.startIndex = b.endIndex) :
    program.critical call entry b = ⟨b, false, .waits⟩ := by
  have direct := dispatch_blocking blocks entry
  simp [program, direct, perform_section_empty blocking inTime ⟨b, false⟩ active empty, finish]

theorem critical_available {blocking : Blocking T} (blocks : blocking? call = some blocking)
    (inTime : entry ≠ .resume true) (active : b.active = true) (available : b.startIndex ≠ b.endIndex)
    {reply : Reply T} {after : Locked T} (ran : perform blocking.body ⟨b, false⟩ = (.ok reply, after)) :
    program.critical call entry b = ⟨after.buffer, after.notified, .returned (.ok reply)⟩ := by
  have direct := dispatch_blocking blocks entry
  simp [program, direct, perform_section_available blocking inTime ⟨b, false⟩ active available, perform_map,
    ran, finish]

theorem blocking_effect (holds : Holds size capacity b queue) {blocking : Blocking T}
    (blocks : blocking? call = some blocking)
    (body : entry ≠ .resume true → b.active = true → queue ≠ [] →
      ∃ reply b', perform blocking.body ⟨b, false⟩ = (.ok reply, ⟨b', false⟩) ∧
        Effect capacity b queue call entry ⟨b', false, .returned (.ok reply)⟩) :
    Effect capacity b queue call entry (program.critical call entry b) := by
  by_cases cause : entry = .resume true ∨ b.active = false
  · rw [critical_gaveUp blocks cause]
    exact .gaveUp blocking blocks cause
  · obtain ⟨inTime, active⟩ : entry ≠ .resume true ∧ b.active = true := by simpa using cause
    by_cases empty : queue = []
    · rw [critical_slept blocks inTime active (holds.empty_iff.mpr empty)]
      exact .slept blocking blocks inTime active empty
    · have apart := holds.indices_apart empty
      obtain ⟨reply, b', ran, effect⟩ := body inTime active empty
      rw [critical_available blocks inTime active apart ran]
      exact effect

theorem critical_effect (holds : Holds size capacity b queue) (call : Call T) (entry : Entry) :
    Effect capacity b queue call entry (program.critical call entry b) := by
  have here : Holds size capacity (Locked.mk b false).buffer queue := holds
  cases call with
  | push element =>
    exact pushSpan_effect holds [element] rfl ⟨push element, rfl, push_eq_pushSpan element _⟩
  | pushSpan elements => exact pushSpan_effect holds elements rfl ⟨pushSpan elements, rfl, rfl⟩
  | peek =>
    rw [critical_immediate Reply.element rfl, perform_peek here]
    exact .observed _ (.inl rfl) (by simp)
  | isEmpty =>
    rw [critical_immediate Reply.flag rfl, perform_isEmpty here]
    exact .observed _ (.inr (.inl rfl)) (by simp)
  | isFull =>
    rw [critical_immediate Reply.flag rfl]
    cases active : b.active with
    | false => simpa [isFull, perform_bind, active] using Effect.observed _ (.inr (.inr rfl)) (by simp [active])
    | true =>
      rcases Nat.eq_zero_or_pos capacity with rfl | positive
      · rw [perform_isFull_zero here active]
        exact .divided rfl active rfl
      · rw [perform_isFull here active positive]
        exact .observed _ (.inr (.inr rfl)) (fun _ _ => positive)
  | stop => exact .ended rfl
  | peekFor delay =>
    apply blocking_effect holds rfl
    intro late active available
    obtain ⟨first, rest, rfl⟩ := List.exists_cons_of_ne_nil available
    exact ⟨_, _, perform_moveFront here, .peeked delay rfl first rest late active rfl⟩
  | pop =>
    apply blocking_effect holds rfl
    intro late active available
    obtain ⟨first, rest, rfl⟩ := List.exists_cons_of_ne_nil available
    exact ⟨_, _, perform_takeFront here, .took (.inl rfl) first rest late active rfl⟩
  | popFor delay =>
    apply blocking_effect holds rfl
    intro late active available
    obtain ⟨first, rest, rfl⟩ := List.exists_cons_of_ne_nil available
    exact ⟨_, _, perform_takeFront here, .took (.inr ⟨delay, rfl⟩) first rest late active rfl⟩
  | popBatch outBuffer maxElements =>
    apply blocking_effect holds rfl
    intro late active available
    obtain ⟨outBuffer', b', ran, -, -, -, written⟩ := perform_takeBatch outBuffer maxElements here available
    exact ⟨_, b', ran, .tookBatch outBuffer maxElements (.inl rfl) outBuffer' b' late active available ran written⟩
  | popBatchFor outBuffer maxElements delay =>
    apply blocking_effect holds rfl
    intro late active available
    obtain ⟨outBuffer', b', ran, -, -, -, written⟩ := perform_takeBatch outBuffer maxElements here available
    exact ⟨_, b', ran,
      .tookBatch outBuffer maxElements (.inr ⟨delay, rfl⟩) outBuffer' b' late active available ran written⟩

theorem Effect.kept (holds : Holds size capacity b queue)
    {result : Monitor.Result (CircularBuffer T) (Answer T)}
    (effect : Effect capacity b queue call entry result) :
    ∃ queue', Holds size capacity result.shared queue' := by
  cases effect with
  | refused | observed | divided | gaveUp | slept => exact ⟨queue, holds⟩
  | pushed elements b' _ _ ran | threw elements _ b' _ _ ran =>
    obtain ⟨_, _, queue', same, held, -⟩ := storeAll_cases holds elements
    rw [ran] at same
    cases same
    exact ⟨queue', held⟩
  | ended => exact ⟨queue, holds.stopped⟩
  | peeked delay _ first rest _ _ available =>
    subst available
    exact ⟨_, holds.replaceFront _⟩
  | took _ first rest _ _ available =>
    subst available
    exact ⟨rest, holds.afterTake _⟩
  | tookBatch outBuffer maxElements _ _ b' _ _ available ran _ =>
    exact ⟨_, (holds.afterBatch available ran).1⟩

theorem critical_kept (call : Call T) (entry : Entry) (holds : ∃ queue, Holds size capacity b queue) :
    ∃ queue, Holds size capacity (program.critical call entry b).shared queue := by
  obtain ⟨queue, held⟩ := holds
  exact (critical_effect held call entry).kept held

theorem exec_kept {c : Nat} {reserved : Reserved ((c + 1) % sizeModulus)}
    (Good : Monitor.Section (CircularBuffer T) (Call T) (Answer T) → Prop)
    (each : ∀ thread call entry before queue, Holds ((c + 1) % sizeModulus) reserved.capacity before queue →
      Good ⟨thread, call, entry, before, program.critical call entry before⟩)
    {actions : List (Monitor.Action (Call T))} {final : Monitor.State (CircularBuffer T) (Call T)}
    {log : List (Monitor.Section (CircularBuffer T) (Call T) (Answer T))}
    (ran : Monitor.exec program (Monitor.start (construct c reserved)) actions = some (final, log)) :
    (∃ queue, Holds ((c + 1) % sizeModulus) reserved.capacity final.shared queue) ∧
      ∀ executed ∈ log, Good executed := by
  apply Monitor.exec_sections
    (fun b => ∃ queue, Holds ((c + 1) % sizeModulus) reserved.capacity b queue) Good _
    Monitor.makes_any ⟨[], construct_holds c reserved⟩ ran
  intro call entry before _ _ holds
  obtain ⟨queue, held⟩ := holds
  constructor
  · exact critical_kept call entry ⟨queue, held⟩
  · intro thread
    exact each thread call entry before queue held

theorem exec_holds {c : Nat} {reserved : Reserved ((c + 1) % sizeModulus)}
    {actions : List (Monitor.Action (Call T))} {final : Monitor.State (CircularBuffer T) (Call T)}
    {log : List (Monitor.Section (CircularBuffer T) (Call T) (Answer T))}
    (ran : Monitor.exec program (Monitor.start (construct c reserved)) actions = some (final, log)) :
    ∃ queue, Holds ((c + 1) % sizeModulus) reserved.capacity final.shared queue :=
  (exec_kept (fun _ => True) (fun _ _ _ _ _ _ => trivial) ran).1

end Sections

end CircularBuffer

end Pirks
