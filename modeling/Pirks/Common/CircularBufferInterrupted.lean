import Pirks.Common.CircularBufferWakeups
import Pirks.Common.CircularBufferSafety

set_option autoImplicit false

namespace Pirks.CircularBuffer

open Execution
open Monitor (Entry)

variable {T : Type} {size capacity : Nat} {b : CircularBuffer T} {queue : List T}

inductive Ends (size : Nat) (b : CircularBuffer T) :
    List (Source T) → Except Fault Unit → CircularBuffer T → Prop where
  | finished : Ends size b [] (.ok ()) b
  | threw (value left : T) (rest : List (Source T)) (inside : b.endIndex < size) :
      Ends size b (.throws value left :: rest) (.error .copyThrew)
        { b with buffer := b.buffer.set b.endIndex left }
  | refused (element : Source T) (rest : List (Source T)) (outside : size ≤ b.endIndex) :
      Ends size b (element :: rest) (.error (.outOfRange b.endIndex)) b

theorem Holds.nothing_stored (holds : Holds size capacity b queue) :
    (queue ++ []).rtake (capacity - 1) = queue := by
  have bounded := holds.length_lt
  rw [List.append_nil, BoundedFifo.rtake_of_length_le (by omega)]

theorem storeAll_splits (holds : Holds size capacity b queue) (elements : List (Source T)) :
    ∃ values rest stored result b', elements = values.map .copies ++ rest ∧
      perform (storeAll capacity (values.map .copies)) ⟨b, false⟩ = (.ok (), ⟨stored, false⟩) ∧
      Holds size capacity stored ((queue ++ values).rtake (capacity - 1)) ∧
      stored.active = b.active ∧
      perform (storeAll capacity elements) ⟨b, false⟩ = (result, ⟨b', false⟩) ∧
      Ends size stored rest result b' := by
  induction elements generalizing b queue with
  | nil => exact ⟨[], [], b, .ok (), b, rfl, rfl, by rwa [holds.nothing_stored], rfl, rfl, .finished⟩
  | cons element elements ih =>
    have here : Holds size capacity (Locked.mk b false).buffer queue := holds
    by_cases inside : b.endIndex < size
    next =>
      cases element with
      | copies value =>
        have first := perform_store_copies here inside value
        obtain ⟨values, rest, stored, result, b', rfl, ran, held, active, whole, ends⟩ :=
          ih (holds.afterStore inside value)
        refine ⟨value :: values, rest, stored, result, b', rfl, ?_, ?_, active, ?_, ends⟩
        next => simpa [storeAll, perform_bind, first, Locked.put] using ran
        next =>
          rw [BoundedFifo.rtake_append_rtake] at held
          simpa using held
        next => simpa [storeAll, perform_bind, first, Locked.put] using whole
      | throws value left =>
        have first := perform_store_throws here inside value left
        refine ⟨[], _, b, _, _, rfl, rfl, by rwa [holds.nothing_stored], rfl, ?_, .threw value left elements inside⟩
        simp [storeAll, perform_bind, first, Locked.put]
    next =>
      have first := perform_store_outOfRange here (Nat.le_of_not_lt inside) element
      refine ⟨[], _, b, _, _, rfl, rfl, by rwa [holds.nothing_stored], rfl, ?_, .refused element elements (by omega)⟩
      simp [storeAll, perform_bind, first]

theorem Ends.unread_eq {stored b' : CircularBuffer T} {rest : List (Source T)} {result : Except Fault Unit}
    (ends : Ends size stored rest result b') (holds : Holds size capacity stored queue) :
    unread b' = queue := by
  cases ends with
  | finished => exact holds.unread_eq
  | threw value left rest inside => exact (holds.spoilEnd left).unread_eq
  | refused element rest outside => exact holds.unread_eq

def pushEach (b : CircularBuffer T) (values : List T) : CircularBuffer T :=
  values.foldl (fun b value => (perform (push (.copies value)) ⟨b, false⟩).2.buffer) b

theorem pushEach_eq (holds : Holds size capacity b queue) (active : b.active = true) {values : List T}
    {stored : CircularBuffer T}
    (ran : perform (storeAll capacity (values.map .copies)) ⟨b, false⟩ = (.ok (), ⟨stored, false⟩)) :
    pushEach b values = stored := by
  induction values generalizing b queue with
  | nil =>
    cases ran
    rfl
  | cons value values ih =>
    have here : Holds size capacity (Locked.mk b false).buffer queue := holds
    by_cases inside : b.endIndex < size
    next =>
      have first := perform_store_copies here inside value
      have later := ih (holds.afterStore inside value) active (by
        simpa [storeAll, perform_bind, first, Locked.put] using ran)
      have pushed : (perform (push (.copies value)) ⟨b, false⟩).2.buffer = afterStore b value := by
        simp [push, perform_bind, active, holds.capacity_eq, first, Locked.put]
      rw [pushEach, List.foldl_cons, pushed]
      exact later
    next =>
      have first := perform_store_outOfRange here (Nat.le_of_not_lt inside) (.copies value)
      simp [storeAll, perform_bind, first] at ran

def Finishes (b : CircularBuffer T) (elements : List (Source T)) : Prop :=
  (∀ element ∈ elements, element.Copies) ∧
    (b.buffer.capacity = b.buffer.size ∨ b.endIndex + elements.length ≤ b.buffer.size)

def StoresNothing (b : CircularBuffer T) (elements : List (Source T)) : Prop :=
  b.buffer.capacity ≤ 1 ∨ b.buffer.size ≤ b.endIndex ∨
    ∃ value left rest, elements = .throws value left :: rest

theorem attempted_copies (values : List T) : attempted (values.map .copies) = values.length := by
  induction values with
  | nil => rfl
  | cons value values ih => exact congrArg (· + 1) ih

theorem completed_copies (values : List T) : completed (values.map .copies) = values.length := by
  induction values with
  | nil => rfl
  | cons value values ih => exact congrArg (· + 1) ih

theorem spare_stored (holds : Holds size capacity b queue) (spare : ¬(capacity = size ∧ 0 < size))
    {values : List T} {stored : CircularBuffer T}
    (ran : perform (storeAll capacity (values.map .copies)) ⟨b, false⟩ = (.ok (), ⟨stored, false⟩)) :
    b.endIndex + values.length ≤ size ∧ stored.endIndex = b.endIndex + values.length := by
  obtain ⟨_, safe, moved⟩ := spare_stores holds spare ran
  rw [attempted_copies] at safe moved
  rw [completed_copies] at moved
  have fits := safe.mp (by simp)
  exact ⟨fits, moved fits⟩

theorem finished_finishes (holds : Holds size capacity b queue) {elements : List (Source T)}
    {b' : CircularBuffer T}
    (ran : perform (storeAll capacity elements) ⟨b, false⟩ = (.ok (), ⟨b', false⟩)) :
    Finishes b elements := by
  obtain ⟨values, rest, stored, result, _, rfl, before, -, -, whole, ends⟩ := storeAll_splits holds elements
  rw [ran] at whole
  cases whole
  cases ends
  rw [List.append_nil]
  constructor
  next =>
    intro element member
    obtain ⟨value, -, rfl⟩ := List.mem_map.mp member
    trivial
  next =>
    rw [holds.capacity_eq, holds.size_eq]
    by_cases spare : ¬(capacity = size ∧ 0 < size)
    next =>
      right
      rw [List.length_map]
      exact (spare_stored holds spare before).1
    next =>
      left
      exact (not_not.mp spare).1

theorem none_stored_outside (holds : Holds size capacity b queue) (outside : size ≤ b.endIndex) {values : List T}
    {stored : CircularBuffer T}
    (ran : perform (storeAll capacity (values.map .copies)) ⟨b, false⟩ = (.ok (), ⟨stored, false⟩)) :
    values = [] := by
  cases values with
  | nil => rfl
  | cons value values =>
    have here : Holds size capacity (Locked.mk b false).buffer queue := holds
    have first := perform_store_outOfRange here outside (.copies value)
    simp [storeAll, perform_bind, first] at ran

-- With room for all elements, an access is out of range only where there is one slot at most.
theorem refused_small (holds : Holds size capacity b queue) {values remaining : List T} {rest : Nat}
    {stored : CircularBuffer T}
    (ran : perform (storeAll capacity (values.map .copies)) ⟨b, false⟩ = (.ok (), ⟨stored, false⟩))
    (held : Holds size capacity stored remaining) (outside : size ≤ stored.endIndex)
    (room : capacity = size ∨ b.endIndex + (values.length + (rest + 1)) ≤ size) : capacity ≤ 1 := by
  by_cases spare : ¬(capacity = size ∧ 0 < size)
  next =>
    obtain ⟨-, moved⟩ := spare_stored holds spare ran
    have bound := held.size_le
    omega
  next =>
    obtain ⟨same, positive⟩ := not_not.mp spare
    have inside := held.end_lt (by omega)
    omega

theorem interrupted_empty_iff (holds : Holds size capacity b []) {elements : List (Source T)} {fault : Fault}
    {b' : CircularBuffer T}
    (ran : perform (storeAll capacity elements) ⟨b, false⟩ = (.error fault, ⟨b', false⟩)) :
    unread b' = [] ↔ Finishes b elements ∨ StoresNothing b elements := by
  obtain ⟨values, rest, stored, _, _, rfl, before, held, -, whole, ends⟩ := storeAll_splits holds elements
  rw [ran] at whole
  cases whole
  rw [ends.unread_eq held, List.nil_append, StoresNothing, Finishes, holds.capacity_eq, holds.size_eq]
  constructor
  next =>
    intro empty
    right
    by_cases small : capacity ≤ 1
    next => exact .inl small
    next =>
      have none_ : values = [] := by
        rw [List.rtake, List.drop_eq_nil_iff] at empty
        exact List.eq_nil_of_length_eq_zero (by omega)
      subst none_
      cases before
      cases ends with
      | threw value left rest inside => exact .inr (.inr ⟨value, left, rest, rfl⟩)
      | refused element rest outside => exact .inr (.inl outside)
  next =>
    have small (low : capacity ≤ 1) : values.rtake (capacity - 1) = [] := by
      have zero : capacity - 1 = 0 := by omega
      simp [List.rtake, zero]
    rintro (⟨copied, room⟩ | low | outside | ⟨value, left, more, same⟩)
    next =>
      cases ends with
      | threw value left rest inside => exact absurd (copied (.throws value left) (by simp)) (by simp [Source.Copies])
      | refused element rest outside =>
        simp only [List.length_append, List.length_map, List.length_cons] at room
        exact small (refused_small holds before held outside room)
    next => exact small low
    next =>
      rw [none_stored_outside holds outside before]
      exact List.rtake_nil _
    next =>
      cases values with
      | nil => exact List.rtake_nil _
      | cons value values => simp at same

theorem first_throw {stored values : List T} {value value' left left' : T} {rest rest' : List (Source T)}
    (same : stored.map .copies ++ .throws value left :: rest = values.map .copies ++ .throws value' left' :: rest') :
    stored = values := by
  induction stored generalizing values with
  | nil => cases values <;> simp_all
  | cons first stored ih =>
    cases values with
    | nil => simp at same
    | cons other values =>
      simp only [List.map_cons, List.cons_append, List.cons.injEq, Source.copies.injEq] at same
      rw [same.1, ih same.2]

theorem Holds.start_valid (holds : Holds size capacity b queue) (inside : b.endIndex < size) :
    b.startIndex < size := by
  have room := holds.size_le
  have bounded := holds.start_lt
  rcases Nat.lt_or_ge size capacity with spare | exact_
  · have ahead := holds.unwrapped_end spare
    omega
  · omega

section Runs

abbrev Moved (T : Type) := Machine.Move (Monitor.State (CircularBuffer T) (Call T)) (Monitor.Action (Call T))

def NoneForgotten (state : Monitor.State (CircularBuffer T) (Call T)) : Prop :=
  ∀ waiter asleep, state.phase waiter = .waiting asleep false → unread state.shared = []

theorem start_none_forgotten (b : CircularBuffer T) : NoneForgotten (Monitor.start b) := by
  intro waiter asleep waiting
  cases waiting

/-- Valid indices, and the contents that pushes of the stored values alone would have left. -/
structure Undamaged (before after : CircularBuffer T) (stored : List T) : Prop where
  start_valid : after.startIndex < after.buffer.size
  end_valid : after.endIndex < after.buffer.size
  one_by_one : unread after = unread (pushEach before stored)
  drops_oldest : unread after = (unread before ++ stored).rtake (before.buffer.capacity - 1)

variable [Element T]

def Interrupted (moved : Moved T) (stored : List T) : Prop :=
  ∃ thread value left rest,
    moved.action = .enter thread (.pushSpan (stored.map .copies ++ .throws value left :: rest)) ∧
      (program.critical (.pushSpan (stored.map .copies ++ .throws value left :: rest)) .enter
        moved.before.shared).outcome = .returned (.error .copyThrew)

structure Consistent (moved : Moved T) : Prop where
  undamaged : ∀ stored, Interrupted moved stored → Undamaged moved.before.shared moved.after.shared stored
  woken : NoneForgotten moved.after

/-- A push that finds a consumer waiting un-notified stores all its elements or nothing. -/
def Told (moved : Moved T) : Prop :=
  ∀ thread call entry elements, Monitor.Began moved.before moved.action thread call entry →
    call.elements? = some elements → moved.before.shared.active = true →
    (∃ waiter asleep, moved.before.phase waiter = .waiting asleep false) →
    Finishes moved.before.shared elements ∨ StoresNothing moved.before.shared elements

theorem interrupted_undamaged (holds : Holds size capacity b queue) {stored : List T} {value left : T}
    {rest : List (Source T)}
    (outcome : (program.critical (.pushSpan (stored.map .copies ++ .throws value left :: rest)) .enter b).outcome =
      .returned (.error .copyThrew)) :
    Undamaged b
      (program.critical (.pushSpan (stored.map .copies ++ .throws value left :: rest)) .enter b).shared stored := by
  have effect := critical_effect holds (.pushSpan (stored.map .copies ++ .throws value left :: rest)) .enter
  generalize program.critical _ .enter b = result at effect outcome ⊢
  cases effect with
  | threw elements fault b' pushes active ran =>
    cases pushes
    cases outcome
    obtain ⟨values, others, reached, _, _, same, before, held, -, whole, ends⟩ := storeAll_splits holds
      (stored.map .copies ++ .throws value left :: rest)
    rw [ran] at whole
    cases whole
    have contents := ends.unread_eq held
    cases ends with
    | threw _ spoilt _ inside =>
      obtain rfl := first_throw same
      exact
        { start_valid := by
            rw [set_size, held.size_eq]
            exact held.start_valid inside
          end_valid := by
            rw [set_size, held.size_eq]
            exact inside
          one_by_one := by rw [contents, pushEach_eq holds active before, held.unread_eq]
          drops_oldest := by rw [contents, holds.unread_eq, holds.capacity_eq] }
  | _ => cases outcome

variable {state next : Monitor.State (CircularBuffer T) (Call T)} {action : Monitor.Action (Call T)}

theorem unread_of_waits (holds : Holds size capacity b queue) (call : Call T) (entry : Entry)
    (waits : (program.critical call entry b).outcome = .waits) :
    unread (program.critical call entry b).shared = [] := by
  obtain ⟨queue', held⟩ := critical_kept call entry ⟨queue, holds⟩
  rw [held.unread_eq]
  exact held.empty_iff.mp (quiet_of_waits ⟨queue, holds⟩ call entry waits).2

theorem commit_none_forgotten_iff (holds : Holds size capacity state.shared queue) {thread : Nat} {call : Call T}
    {entry : Entry} (began : Monitor.Began state action thread call entry) :
    NoneForgotten (Monitor.commit program state thread call entry) ↔
      ((program.critical call entry state.shared).notifies = false →
        (∃ waiter asleep, state.phase waiter = .waiting asleep false) →
        unread (program.critical call entry state.shared).shared = []) := by
  constructor
  next =>
    rintro none_ silent ⟨waiter, asleep, waiting⟩
    have other : waiter ≠ thread := by
      rintro rfl
      exact began.not_waiting waiting
    apply none_ waiter asleep
    rw [Monitor.commit_unnotified_iff, if_neg other]
    exact ⟨silent, waiting⟩
  next =>
    intro told waiter asleep waiting
    rw [Monitor.commit_unnotified_iff] at waiting
    split at waiting
    next => exact unread_of_waits holds call entry waiting.1
    next => exact told waiting.1 ⟨waiter, asleep, waiting.2⟩

theorem push_told_iff (holds : Holds size capacity b []) {call : Call T} {entry : Entry}
    {elements : List (Source T)} (pushes : call.elements? = some elements) (active : b.active = true) :
    ((program.critical call entry b).notifies = false → unread (program.critical call entry b).shared = []) ↔
      Finishes b elements ∨ StoresNothing b elements := by
  have effect := critical_effect holds call entry
  generalize program.critical call entry b = result at effect ⊢
  cases effect with
  | refused _ _ stopped => simp [active] at stopped
  | pushed others b' pushes' _ ran =>
    obtain rfl : elements = others := Option.some.inj (pushes.symm.trans pushes')
    simp [finished_finishes holds ran]
  | threw others fault b' pushes' _ ran =>
    obtain rfl : elements = others := Option.some.inj (pushes.symm.trans pushes')
    simp [← interrupted_empty_iff holds ran]
  | observed _ looks => rcases looks with rfl | rfl | rfl <;> cases pushes
  | divided same | ended same | peeked _ same =>
    subst same
    cases pushes
  | gaveUp blocking blocks | slept blocking blocks =>
    rw [blocking_pushes_nothing blocks] at pushes
    cases pushes
  | took pops => rcases pops with rfl | ⟨delay, rfl⟩ <;> cases pushes
  | tookBatch _ _ pops => rcases pops with rfl | ⟨delay, rfl⟩ <;> cases pushes

theorem silent_unread (holds : Holds size capacity b []) {call : Call T} {entry : Entry}
    (none_ : call.elements? = none ∨ b.active = false) :
    unread (program.critical call entry b).shared = [] := by
  have effect := critical_effect holds call entry
  generalize program.critical call entry b = result at effect ⊢
  cases effect with
  | refused | observed | divided | gaveUp | slept => exact holds.unread_eq
  | pushed _ _ pushes active | threw _ _ _ pushes active => simp [pushes, active] at none_
  | ended => exact holds.stopped.unread_eq
  | peeked _ _ _ _ _ _ available => cases available
  | took _ _ _ _ _ available => cases available
  | tookBatch _ _ _ _ _ _ _ available => exact absurd rfl available

theorem commit_told_iff (holds : Holds size capacity state.shared queue) (none_ : NoneForgotten state)
    {thread : Nat} {call : Call T} {entry : Entry} (began : Monitor.Began state action thread call entry) :
    NoneForgotten (Monitor.commit program state thread call entry) ↔
      Told ⟨state, action, Monitor.commit program state thread call entry⟩ := by
  rw [commit_none_forgotten_iff holds began]
  have empty (waits : ∃ waiter asleep, state.phase waiter = .waiting asleep false) :
      Holds size capacity state.shared [] := by
    obtain ⟨waiter, asleep, waiting⟩ := waits
    obtain rfl : queue = [] := holds.unread_eq.symm.trans (none_ waiter asleep waiting)
    exact holds
  constructor
  next =>
    intro told other call' entry' elements again pushes active waits
    obtain ⟨rfl, rfl, rfl⟩ := began.unique again
    exact (push_told_iff (empty waits) pushes active).mp fun silent => told silent waits
  next =>
    intro told silent waits
    by_cases quiet : call.elements? = none ∨ state.shared.active = false
    next => exact silent_unread (empty waits) quiet
    next =>
      simp only [not_or, Bool.not_eq_false] at quiet
      obtain ⟨pushing, active⟩ := quiet
      obtain ⟨elements, pushes⟩ := Option.ne_none_iff_exists'.mp pushing
      exact (push_told_iff (empty waits) pushes active).mpr
        (told thread call entry elements began pushes active waits) silent

abbrev watched (T : Type) [Element T] :=
  Machine.watch (Monitor.step (program : Monitor.Program (CircularBuffer T) (Call T) (Answer T)))

theorem watched_holds (holds : ∃ queue, Holds size capacity state.shared queue) {moves : List (Moved T)}
    (taken : watched T state action = some (next, moves)) :
    moves = [⟨state, action, next⟩] ∧ ∃ queue, Holds size capacity next.shared queue := by
  obtain ⟨⟨new, stepped⟩, rfl⟩ := Machine.watch_taken taken
  refine ⟨rfl, ?_⟩
  rcases Monitor.step_cases stepped with ⟨thread, call, entry, _, rfl, _⟩ | ⟨thread, call, timedOut, _, rfl, _⟩
  next => exact critical_kept call entry holds
  next => exact holds

theorem watched_undamaged (holds : ∃ queue, Holds size capacity state.shared queue) {moves : List (Moved T)}
    (taken : watched T state action = some (next, moves)) {stored : List T}
    (interrupted : Interrupted ⟨state, action, next⟩ stored) :
    Undamaged state.shared next.shared stored := by
  obtain ⟨⟨new, stepped⟩, -⟩ := Machine.watch_taken taken
  obtain ⟨queue, held⟩ := holds
  obtain ⟨thread, value, left, rest, same, outcome⟩ := interrupted
  change action = _ at same
  subst same
  rcases Monitor.step_cases stepped with ⟨_, call, entry, began, rfl, _⟩ | ⟨_, call, timedOut, roused, rfl, _⟩
  next =>
    cases began
    exact interrupted_undamaged held outcome
  next => cases roused

theorem watched_told_iff (holds : ∃ queue, Holds size capacity state.shared queue) (none_ : NoneForgotten state)
    {moves : List (Moved T)} (taken : watched T state action = some (next, moves)) :
    NoneForgotten next ↔ Told ⟨state, action, next⟩ := by
  obtain ⟨⟨new, stepped⟩, -⟩ := Machine.watch_taken taken
  obtain ⟨queue, held⟩ := holds
  rcases Monitor.step_cases stepped with ⟨_, call, entry, began, rfl, _⟩ | ⟨thread, call, timedOut, roused, rfl, _⟩
  next => exact commit_told_iff held none_ began
  next =>
    refine iff_of_true ?_ ?_
    · intro waiter asleep waiting
      by_cases same : waiter = thread
      · subst same
        simp at waiting
      · rw [Monitor.rouse_phase_other state same] at waiting
        exact none_ waiter asleep waiting
    · intro other call' entry' elements began
      cases roused <;> cases began

section Moves

variable {c : Nat} {reserved : Reserved ((c + 1) % sizeModulus)} {actions : List (Monitor.Action (Call T))}
variable {final : Monitor.State (CircularBuffer T) (Call T)} {log : List (Moved T)}

theorem watched_run {Good : Moved T → Prop} (Inv : Monitor.State (CircularBuffer T) (Call T) → Prop)
    (each : ∀ state action next, (∃ queue, Holds ((c + 1) % sizeModulus) reserved.capacity state.shared queue) →
      Inv state → ∀ moves, watched T state action = some (next, moves) → Inv next ∧ Good ⟨state, action, next⟩)
    (initial : Inv (Monitor.start (construct c reserved)))
    (ran : Machine.run (watched T) (Monitor.start (construct c reserved)) actions = some (final, log)) :
    ∀ moved ∈ log, Good moved := by
  have holds : ∃ queue, Holds ((c + 1) % sizeModulus) reserved.capacity
      (construct c reserved : CircularBuffer T) queue := ⟨[], construct_holds c reserved⟩
  refine (Machine.run_records
    (fun state : Monitor.State (CircularBuffer T) (Call T) =>
      (∃ queue, Holds ((c + 1) % sizeModulus) reserved.capacity state.shared queue) ∧ Inv state)
    Good ?_ (fun _ _ => trivial) ⟨holds, initial⟩ ran).2
  rintro state action next new - ⟨held, inv⟩ taken
  obtain ⟨rfl, after⟩ := watched_holds held taken
  obtain ⟨kept, good⟩ := each state action next held inv _ taken
  exact ⟨⟨after, kept⟩, by simpa using good⟩

theorem moves_hold
    (ran : Machine.run (watched T) (Monitor.start (construct c reserved)) actions = some (final, log)) :
    ∀ moved ∈ log, ∃ queue, Holds ((c + 1) % sizeModulus) reserved.capacity moved.after.shared queue :=
  watched_run (fun _ => True) (fun _ _ _ holds _ _ taken => ⟨trivial, (watched_holds holds taken).2⟩) trivial ran

theorem none_forgotten_iff
    (ran : Machine.run (watched T) (Monitor.start (construct c reserved)) actions = some (final, log)) :
    (∀ moved ∈ log, NoneForgotten moved.after) ↔ ∀ moved ∈ log, Told moved := by
  have told := Machine.run_good_iff
    (fun state : Monitor.State (CircularBuffer T) (Call T) =>
      (∃ queue, Holds ((c + 1) % sizeModulus) reserved.capacity state.shared queue) ∧ NoneForgotten state)
    Told Machine.Move.after (by
      rintro state action next new ⟨holds, none_⟩ taken
      obtain ⟨rfl, after⟩ := watched_holds holds taken
      exact ⟨_, rfl, rfl, (and_iff_right after).trans (watched_told_iff holds none_ taken)⟩)
    ⟨⟨[], construct_holds c reserved⟩, start_none_forgotten _⟩ ran
  rw [← told]
  exact forall₂_congr fun moved member => (and_iff_right (moves_hold ran moved member)).symm

end Moves

theorem interrupted_consistent_iff (c : Nat) (reserved : Reserved ((c + 1) % sizeModulus))
    (actions : List (Monitor.Action (Call T))) (final : Monitor.State (CircularBuffer T) (Call T))
    (log : List (Moved T))
    (ran : Machine.run (watched T) (Monitor.start (construct c reserved)) actions = some (final, log)) :
    (∀ moved ∈ log, Consistent moved) ↔ ∀ moved ∈ log, Told moved := by
  have undamaged : ∀ moved ∈ log, ∀ stored, Interrupted moved stored →
      Undamaged moved.before.shared moved.after.shared stored :=
    watched_run (fun _ => True)
      (fun _ _ _ holds _ _ taken => ⟨trivial, fun _ interrupted => watched_undamaged holds taken interrupted⟩)
      trivial ran
  rw [← none_forgotten_iff ran]
  constructor
  · exact fun consistent moved member => (consistent moved member).woken
  · exact fun woken moved member => ⟨undamaged moved member, woken moved member⟩

theorem interrupted_consistent_iff_woken :
    ∃ final log,
      Machine.run (watched Nat) (Monitor.start (constructExact 3))
        [.enter 0 .pop, .enter 1 (.push (.copies 5)), .enter 1 (.pushSpan [.copies 7, .throws 8 8])] =
          some (final, log) ∧
      ((∀ moved ∈ log, Consistent moved) ↔ ∀ moved ∈ log, Told moved) :=
  ⟨_, _, rfl, interrupted_consistent_iff 3 (.exact 4 (by decide))
    [.enter 0 .pop, .enter 1 (.push (.copies 5)), .enter 1 (.pushSpan [.copies 7, .throws 8 8])] _ _ rfl⟩

-- The second copy throws: the first element is there, and the consumer sleeps on.
theorem interrupted_forgets_consumer :
    ¬∀ (c : Nat) (reserved : Reserved ((c + 1) % sizeModulus)) (actions : List (Monitor.Action (Call Nat)))
        (final : Monitor.State (CircularBuffer Nat) (Call Nat)) (log : List (Moved Nat)),
      Machine.run (watched Nat) (Monitor.start (construct c reserved)) actions = some (final, log) →
      ∀ moved ∈ log, Consistent moved := by
  intro always
  have consistent := always 3 (.exact 4 (by decide))
    [.enter 0 .pop, .enter 1 (.pushSpan [.copies 7, .throws 8 8])] _ _ rfl
  have woken := (consistent _ (.tail _ (.head _))).woken 0 .pop rfl
  exact absurd woken (by decide)

def Awaited (state : Monitor.State (CircularBuffer T) (Call T)) : Prop :=
  ∀ waiter asleep, state.phase waiter = .waiting asleep false → Quiet state.shared

def WaitsActive (state : Monitor.State (CircularBuffer T) (Call T)) : Prop :=
  ∀ waiter asleep, state.phase waiter = .waiting asleep false → state.shared.active = true

-- stop() tells everybody, and nobody falls asleep after it.
theorem watched_waitsActive (holds : ∃ queue, Holds size capacity state.shared queue)
    (waits : WaitsActive state) {moves : List (Moved T)}
    (taken : watched T state action = some (next, moves)) : WaitsActive next := by
  obtain ⟨⟨new, stepped⟩, -⟩ := Machine.watch_taken taken
  rcases Monitor.step_cases stepped with ⟨thread, call, entry, _, rfl, _⟩ | ⟨thread, call, timedOut, _, rfl, _⟩
  next =>
    intro waiter asleep waiting
    rw [Monitor.commit_unnotified_iff] at waiting
    split at waiting
    next => exact (quiet_of_waits holds call entry waiting.1).1
    next =>
      obtain ⟨queue, held⟩ := holds
      apply critical_active held (waits waiter asleep waiting.2)
      rintro rfl
      cases waiting.1
  next =>
    intro waiter asleep waiting
    by_cases same : waiter = thread
    · subst same
      simp at waiting
    · rw [Monitor.rouse_phase_other state same] at waiting
      exact waits waiter asleep waiting

-- Run by run, copies that throw included: what `NoLostWakeup` asks of all runs of a buffer.
theorem awaited_iff (c : Nat) (reserved : Reserved ((c + 1) % sizeModulus))
    (actions : List (Monitor.Action (Call T))) (final : Monitor.State (CircularBuffer T) (Call T))
    (log : List (Moved T))
    (ran : Machine.run (watched T) (Monitor.start (construct c reserved)) actions = some (final, log)) :
    (∀ moved ∈ log, Awaited moved.after) ↔ ∀ moved ∈ log, Told moved := by
  have active : ∀ moved ∈ log, WaitsActive moved.after :=
    watched_run WaitsActive
      (fun _ _ _ holds waits _ taken =>
        ⟨watched_waitsActive holds waits taken, watched_waitsActive holds waits taken⟩)
      (fun _ _ waiting => by cases waiting) ran
  rw [← none_forgotten_iff ran]
  refine forall₂_congr fun moved member => forall₂_congr fun waiter asleep => forall_congr' fun waiting => ?_
  obtain ⟨queue, held⟩ := moves_hold ran moved member
  rw [Quiet, held.empty_iff, held.unread_eq]
  exact and_iff_right (active moved member waiter asleep waiting)

end Runs

end Pirks.CircularBuffer
