import Mathlib.Data.List.TakeDrop
import Pirks.Common.CircularBufferHistory
import Pirks.Common.CircularBufferSafety
import Pirks.Common.CircularBufferWakeups

set_option autoImplicit false

namespace Pirks.CircularBuffer

open BoundedFifo Execution Monitor

variable {T : Type}

def Conserved (c : Nat) (log : List (Executed T)) (final : CircularBuffer T) : Prop :=
  (∃ history : List (T × Fate), history.map Prod.fst = pushed log ∧
    withFate .consumed history = consumed log ∧ withFate .evicted history = evicted log ∧
    withFate .stored history = unread final ∧
    survivors history = consumed log ++ unread final) ∧
  (∀ step ∈ log.flatMap pushSteps, step.evicted?.isSome → (unread step.before).length = c) ∧
  ((∀ step ∈ log.flatMap pushSteps, (unread step.before).length ≠ c) →
    consumed log ++ unread final = pushed log)

-- stop() ends the stream: what is pushed later is dropped on purpose.
def pushedUntilStop : List (Action (Call T)) → List T
  | [] => []
  | .enter _ .stop :: _ => []
  | .enter _ call :: rest => handedIn call ++ pushedUntilStop rest
  | _ :: rest => pushedUntilStop rest

theorem pushedUntilStop_cons {call : Call T} (goes : call ≠ .stop) (thread : Nat)
    (rest : List (Action (Call T))) :
    pushedUntilStop (.enter thread call :: rest) = handedIn call ++ pushedUntilStop rest := by
  cases call with
  | stop => exact absurd rfl goes
  | _ => rfl

theorem pushed_snoc (log : List (Executed T)) (executed : Executed T) :
    pushed (log ++ [executed]) =
      pushed log ++ if executed.before.active then handedIn executed.call else [] := by
  simp [pushed]

variable {size capacity : Nat} {b : CircularBuffer T} {queue : List T} {log : List (Executed T)}

theorem storeSteps_outside (holds : Holds size capacity b queue) (outside : size ≤ b.endIndex)
    (elements : List (Source T)) : storeSteps capacity b elements = [] := by
  have here : Holds size capacity (Locked.mk b false).buffer queue := holds
  cases elements with
  | nil => rfl
  | cons element elements => simp [storeSteps, perform_store_outOfRange here outside element]

theorem storeSteps_finished (holds : Holds size capacity b queue) {elements : List (Source T)}
    {after : Locked T} (ran : perform (storeAll capacity elements) ⟨b, false⟩ = (.ok (), after)) :
    (storeSteps capacity b elements).map StoreStep.value = elements.map Source.value := by
  induction elements generalizing b queue with
  | nil => rfl
  | cons element elements ih =>
    have here : Holds size capacity (Locked.mk b false).buffer queue := holds
    rcases perform_store_cases here element with ⟨value, rfl, stored, first⟩ | ⟨fault, b', threw, -⟩
    next =>
      rw [storeSteps_cons holds stored, List.map_cons, List.map_cons, ih (holds.afterStore stored value)]
      next => rfl
      next => simpa [storeAll, perform_bind, first, Locked.put] using ran
    next => simp [storeAll, perform_bind, threw] at ran

theorem afterStore_end (holds : Holds size capacity b queue) (stored : b.endIndex < size)
    (spare : ¬(capacity = size ∧ 0 < size)) (value : T) :
    (afterStore b value).endIndex = b.endIndex + 1 := by
  have room := holds.size_le
  have stepped := holds.unwrapped_next stored (by omega)
  simpa [afterStore, holds.capacity_eq] using stepped.1

-- A vector with spare capacity takes what is left of its size, and then throws.
theorem storeSteps_spare (holds : Holds size capacity b queue) (spare : ¬(capacity = size ∧ 0 < size))
    (values : List T) :
    (storeSteps capacity b (values.map .copies)).map StoreStep.value = values.take (size - b.endIndex) ∧
      (perform (storeAll capacity (values.map .copies)) ⟨b, false⟩).2.buffer.endIndex =
        b.endIndex + (values.take (size - b.endIndex)).length := by
  induction values generalizing b queue with
  | nil => simp [storeSteps, storeAll]
  | cons value values ih =>
    have here : Holds size capacity (Locked.mk b false).buffer queue := holds
    by_cases stored : b.endIndex < size
    next =>
      obtain ⟨taken, moved⟩ := ih (holds.afterStore stored value)
      have room : size - b.endIndex = size - (b.endIndex + 1) + 1 := by omega
      have first := perform_store_copies here stored value
      rw [afterStore_end holds stored spare] at taken moved
      rw [room, List.take_succ_cons, List.map_cons, storeSteps_cons holds stored]
      constructor
      next => rw [List.map_cons, taken]
      next =>
        simp only [storeAll, perform_bind, first, Locked.put]
        rw [moved, List.length_cons]
        omega
    next =>
      have none_ : size - b.endIndex = 0 := by omega
      have refused := perform_store_outOfRange here (by simpa using stored) (.copies value)
      rw [none_, List.take_zero, storeSteps_outside holds (by omega)]
      simp [storeAll, perform_bind, refused]

section Sections

variable {call : Call T}

theorem handedIn_copies (copies : call.Copies) {elements : List (Source T)}
    (pushes : call.elements? = some elements) : elements = (handedIn call).map .copies := by
  have copied := copies_eq_map (copies elements pushes)
  simpa [handedIn, pushes] using copied

theorem push_ends_spare (holds : Holds size capacity b queue) (spare : ¬(capacity = size ∧ 0 < size))
    (copies : call.Copies) {elements : List (Source T)} (pushes : call.elements? = some elements)
    {result : Except Fault Unit} {b' : CircularBuffer T}
    (ran : perform (storeAll capacity elements) ⟨b, false⟩ = (result, ⟨b', false⟩)) :
    (storeSteps capacity b elements).map StoreStep.value = (handedIn call).take (size - b.endIndex) ∧
      b'.endIndex = b.endIndex + ((handedIn call).take (size - b.endIndex)).length := by
  rw [handedIn_copies copies pushes] at ran ⊢
  obtain ⟨taken, moved⟩ := storeSteps_spare holds spare (handedIn call)
  rw [ran] at moved
  exact ⟨taken, moved⟩

variable [Element T]

theorem critical_stores (holds : Holds size capacity b queue) (thread : Nat) (entry : Entry)
    (returns : ∀ fault, (program.critical call entry b).outcome ≠ .returned (.error fault)) :
    (pushSteps ⟨thread, call, entry, b, program.critical call entry b⟩).map StoreStep.value =
      if b.active then handedIn call else [] := by
  have effect := critical_effect holds call entry
  have silent (none_ : call.elements? = none) (result : Result (CircularBuffer T) (Answer T)) :
      (pushSteps ⟨thread, call, entry, b, result⟩).map StoreStep.value =
        if b.active then handedIn call else [] := by
    simp [pushSteps, handedIn, none_]
  generalize program.critical call entry b = result at effect returns ⊢
  cases effect with
  | refused elements pushes stopped => simp [pushSteps, stopped]
  | pushed elements b' pushes active ran =>
    simpa [pushSteps, handedIn, pushes, active, holds.capacity_eq] using storeSteps_finished holds ran
  | threw elements fault => exact absurd rfl (returns fault)
  | observed _ looks => exact silent (by rcases looks with rfl | rfl | rfl <;> rfl) _
  | divided | ended | peeked =>
    subst_vars
    exact silent rfl _
  | gaveUp blocking blocks | slept blocking blocks => exact silent (blocking_pushes_nothing blocks) _
  | took pops | tookBatch _ _ pops => exact silent (by rcases pops with rfl | ⟨_, rfl⟩ <;> rfl) _

theorem critical_exact_returns (holds : Holds size size b queue) (positive : 0 < size) (copies : call.Copies)
    (entry : Entry) (fault : Fault) : (program.critical call entry b).outcome ≠ .returned (.error fault) := by
  have effect := critical_effect holds call entry
  generalize program.critical call entry b = result at effect ⊢
  cases effect with
  | threw elements _ b' pushes _ ran =>
    obtain ⟨_, finished⟩ := storeAll_exact holds positive (copies elements pushes)
    rw [ran] at finished
    cases finished
  | divided _ _ zero => omega
  | _ => simp

theorem critical_takes_spare (holds : Holds size capacity b queue)
    (spare : ¬(capacity = size ∧ 0 < size)) (copies : call.Copies) (thread : Nat) (entry : Entry) :
    let executed : Executed T := ⟨thread, call, entry, b, program.critical call entry b⟩
    let taken := (if b.active then handedIn call else []).take (size - b.endIndex)
    (pushSteps executed).map StoreStep.value = taken ∧
      executed.result.shared.endIndex = b.endIndex + taken.length := by
  have effect := critical_effect holds call entry
  have silent (none_ : call.elements? = none) (result : Result (CircularBuffer T) (Answer T))
      (same : result.shared.endIndex = b.endIndex) :
      let taken := (if b.active then handedIn call else []).take (size - b.endIndex)
      (pushSteps ⟨thread, call, entry, b, result⟩).map StoreStep.value = taken ∧
        result.shared.endIndex = b.endIndex + taken.length := by
    simp [pushSteps, handedIn, none_, same]
  generalize program.critical call entry b = result at effect ⊢
  cases effect with
  | refused elements pushes stopped => simp [pushSteps, stopped]
  | pushed elements b' pushes active ran | threw elements _ b' pushes active ran =>
    obtain ⟨taken, moved⟩ := push_ends_spare holds spare copies pushes ran
    simpa [pushSteps, pushes, active, holds.capacity_eq] using And.intro taken moved
  | observed _ looks => exact silent (by rcases looks with rfl | rfl | rfl <;> rfl) _ rfl
  | divided asks =>
    subst asks
    exact silent rfl _ rfl
  | ended stops =>
    subst stops
    exact silent rfl _ rfl
  | gaveUp blocking blocks | slept blocking blocks => exact silent (blocking_pushes_nothing blocks) _ rfl
  | peeked delay looks =>
    subst looks
    exact silent rfl _ rfl
  | took pops => exact silent (by rcases pops with rfl | ⟨_, rfl⟩ <;> rfl) _ rfl
  | tookBatch _ _ pops _ b' _ _ available ran =>
    have kept := (holds.afterBatch available ran).2.2
    exact silent (by rcases pops with rfl | ⟨_, rfl⟩ <;> rfl) _ kept

end Sections

-- An element that was pushed and not stored has none of the three fates.
theorem Recorded.conserved_iff {c : Nat} (recorded : Recorded size capacity b log) (size_ : ∀ n, n + 1 = size → n = c)
    (stored : entered log <+: pushed log) : Conserved c log b ↔ entered log = pushed log := by
  obtain ⟨queue, holds, accounts, crowded⟩ := recorded
  constructor
  next =>
    rintro ⟨⟨history, all, taken, lost, kept, -⟩, -⟩
    obtain ⟨true_, all', taken', lost', kept', -⟩ := accounts.history
    apply stored.eq_of_length
    have count := length_eq_fates history
    have count' := length_eq_fates true_
    rw [taken, lost, kept, holds.unread_eq] at count
    rw [taken', lost', kept'] at count'
    rw [← all, ← all', List.length_map, List.length_map, count, count']
  next =>
    intro same
    have spaced : ∀ step ∈ log.flatMap pushSteps, step.evicted?.isSome → (unread step.before).length = c :=
      fun step member evicts => size_ _ (crowded step member evicts)
    rw [Conserved, ← same, holds.unread_eq]
    refine ⟨accounts.history, spaced, fun uncrowded => ?_⟩
    have none_ : evicted log = [] := by
      apply List.filterMap_eq_nil_iff.mpr
      intro step member
      rw [← Option.not_isSome_iff_eq_none]
      exact fun evicts => uncrowded step member (spaced step member evicts)
    rw [none_] at accounts
    exact accounts.lossless

section Runs

variable [Element T] {actions : List (Action (Call T))} {final : State (CircularBuffer T) (Call T)}
variable {c : Nat} {reserved : Reserved ((c + 1) % sizeModulus)}

theorem entered_eq_pushed (returns : ∀ executed ∈ log, ∀ fault, executed.result.outcome ≠ .returned (.error fault))
    (ran : Monitor.exec program (start (construct c reserved)) actions = some (final, log)) :
    entered log = pushed log := by
  have each := (exec_kept
    (fun executed => (∀ fault, executed.result.outcome ≠ .returned (.error fault)) →
      (pushSteps executed).map StoreStep.value =
        if executed.before.active then handedIn executed.call else [])
    (fun thread _ entry _ _ holds => critical_stores holds thread entry) ran).2
  rw [entered, pushed, List.map_flatMap]
  exact List.flatMap_congr fun executed member => each executed member (returns executed member)

theorem entered_exact (exact_ : reserved.capacity = (c + 1) % sizeModulus ∧ 0 < (c + 1) % sizeModulus)
    (copies : ∀ action ∈ actions, action.Makes Call.Copies)
    (ran : Monitor.exec program (start (construct c reserved)) actions = some (final, log)) :
    entered log = pushed log := by
  refine entered_eq_pushed (Monitor.exec_sections
    (fun b => ∃ queue, Holds ((c + 1) % sizeModulus) reserved.capacity b queue)
    (fun executed => ∀ fault, executed.result.outcome ≠ .returned (.error fault)) ?_
    copies ⟨[], construct_holds c reserved⟩ ran).2 ran
  intro call entry before copied _ holds
  refine ⟨critical_kept call entry holds, fun thread fault => ?_⟩
  obtain ⟨queue, held⟩ := holds
  rw [exact_.1] at held
  exact critical_exact_returns held exact_.2 copied entry fault

/-- With spare capacity endIndex_ counts the stores, and those stop at size(). -/
def Filled (size capacity : Nat) (b : CircularBuffer T) (log : List (Executed T)) : Prop :=
  (∃ queue, Holds size capacity b queue) ∧ b.endIndex = (entered log).length ∧
    entered log = (pushed log).take size

theorem critical_filled {call : Call T} {entry : Entry} (spare : ¬(capacity = size ∧ 0 < size))
    (copies : call.Copies) (filled : Filled size capacity b log) (thread : Nat) :
    Filled size capacity (program.critical call entry b).shared
      (log ++ [⟨thread, call, entry, b, program.critical call entry b⟩]) := by
  obtain ⟨holds, counts, kept⟩ := filled
  obtain ⟨queue, held⟩ := holds
  obtain ⟨taken, moved⟩ := critical_takes_spare held spare copies thread entry
  have room : size - b.endIndex = size - (pushed log).length := by
    rw [counts, kept, List.length_take]
    omega
  refine ⟨critical_kept call entry ⟨queue, held⟩, ?_, ?_⟩
  next => rw [moved, entered_snoc, List.length_append, taken, counts]
  next => rw [entered_snoc, pushed_snoc, List.take_append, taken, room, ← kept]

theorem entered_spare (spare : ¬(reserved.capacity = (c + 1) % sizeModulus ∧ 0 < (c + 1) % sizeModulus))
    (copies : ∀ action ∈ actions, action.Makes Call.Copies)
    (ran : Monitor.exec program (start (construct c reserved)) actions = some (final, log)) :
    entered log = (pushed log).take ((c + 1) % sizeModulus) := by
  have initial : Filled ((c + 1) % sizeModulus) reserved.capacity
      (construct c reserved : CircularBuffer T) [] :=
    ⟨⟨[], construct_holds c reserved⟩, rfl, by simp [entered, pushed]⟩
  exact (Monitor.exec_history (Filled ((c + 1) % sizeModulus) reserved.capacity)
    (fun thread _ _ _ _ copied _ filled => critical_filled spare copied filled thread)
    copies initial ran).2.2

theorem stopped_pushes_nothing {state final : State (CircularBuffer T) (Call T)}
    (holds : ∃ queue, Holds size capacity state.shared queue) (stopped : state.shared.active = false)
    (ran : Monitor.exec program state actions = some (final, log)) : pushed log = [] := by
  rw [pushed, List.flatMap_eq_nil_iff]
  intro executed member
  simp [(stopped_run_quiet holds stopped ran executed member).1]

theorem pushed_eq {state final : State (CircularBuffer T) (Call T)}
    (holds : ∃ queue, Holds size capacity state.shared queue) (active : state.shared.active = true)
    (orderly : Orderly state) (ran : Monitor.exec program state actions = some (final, log)) :
    pushed log = pushedUntilStop actions := by
  induction actions generalizing state log with
  | nil =>
    simp only [Machine.run_nil, Option.some.injEq, Prod.mk.injEq] at ran
    obtain ⟨rfl, rfl⟩ := ran
    rfl
  | cons action rest ih =>
    obtain ⟨next, new, later, taken, followed, rfl⟩ := Machine.run_cons.mp ran
    obtain ⟨queue, held⟩ := holds
    rcases step_cases taken with
      ⟨thread, call, entry, began, rfl, rfl⟩ | ⟨thread, call, timedOut, roused, rfl, rfl⟩
    · have kept := critical_kept call entry ⟨queue, held⟩
      have legal : Orderly (commit program state thread call entry) :=
        commit_legal orderly (fun waits => waits_blocking held call entry waits) thread
      have split_ : pushed ([executed program state thread call entry] ++ later) =
          handedIn call ++ pushed later := by
        simp [pushed, executed, active]
      rw [split_]
      cases began with
      | enter idle =>
        by_cases stops : call = .stop
        · subst stops
          rw [stopped_pushes_nothing kept (by rfl) followed]
          rfl
        · rw [ih kept (critical_active held active stops) legal followed, pushedUntilStop_cons stops]
      | resume awake =>
        have waiting := orderly thread
        rw [awake] at waiting
        obtain ⟨blocking, blocks⟩ := waiting.1
        have goes : call ≠ .stop := by
          rintro rfl
          cases blocks
        rw [ih kept (critical_active held active goes) legal followed]
        simp [handedIn, blocking_pushes_nothing blocks, pushedUntilStop]
    · have legal : Orderly (rouse state thread call timedOut) :=
        rouse_legal orderly (roused.legal orderly)
      have kept : ∃ queue, Holds size capacity (rouse state thread call timedOut).shared queue := ⟨queue, held⟩
      rw [List.nil_append, ih kept active legal followed]
      cases roused <;> rfl

theorem stream_conserved_iff (c : Nat) (positive : 1 ≤ c) (representable : c < sizeModulus)
    (reserved : Reserved ((c + 1) % sizeModulus)) (actions : List (Action (Call T)))
    (final : State (CircularBuffer T) (Call T)) (log : List (Executed T))
    (streams : ∀ action ∈ actions, action.Makes Streams)
    (copies : ∀ action ∈ actions, action.Makes Call.Copies)
    (ran : Monitor.exec program (start (construct c reserved)) actions = some (final, log)) :
    Conserved c log final.shared ↔
      (reserved.capacity = (c + 1) % sizeModulus ∧ 0 < (c + 1) % sizeModulus) ∨
        (pushedUntilStop actions).length ≤ (c + 1) % sizeModulus := by
  have recorded := exec_recorded positive representable streams ran
  have size_ : ∀ n, n + 1 = (c + 1) % sizeModulus → n = c := by
    intro n same
    rcases Nat.lt_or_eq_of_le representable with below | round
    · rw [Nat.mod_eq_of_lt below] at same
      omega
    · simp [← round] at same
  have initial : ∃ queue, Holds ((c + 1) % sizeModulus) reserved.capacity
      (construct c reserved : CircularBuffer T) queue := ⟨[], construct_holds c reserved⟩
  by_cases exact_ : reserved.capacity = (c + 1) % sizeModulus ∧ 0 < (c + 1) % sizeModulus
  · have same := entered_exact exact_ copies ran
    rw [recorded.conserved_iff size_ (same ▸ List.prefix_rfl)]
    exact iff_of_true same (.inl exact_)
  · have same := entered_spare exact_ copies ran
    have before : entered log <+: pushed log := same ▸ List.take_prefix _ _
    have calls : pushed log = pushedUntilStop actions := pushed_eq initial rfl (start_legal _) ran
    rw [recorded.conserved_iff size_ before, same, List.take_eq_self_iff, calls]
    simp [exact_]

def overwriting : List (Action (Call Nat)) :=
  [.enter 0 .pop, .enter 1 (.pushSpan [.copies 1, .copies 2, .copies 3]), .wake 0, .resume 0]

theorem overwriting_run :
    ∃ final log,
      Monitor.exec program (start (construct 2 ⟨3, by decide, by decide⟩)) overwriting = some (final, log) ∧
      (consumed log, evicted log, unread final.shared, pushed log) = ([2], [1], [3], [1, 2, 3]) :=
  ⟨_, _, rfl, by decide +kernel⟩

theorem stream_conserved_iff_overwrite :
    ∃ final log,
      Monitor.exec program (start (construct 2 ⟨3, by decide, by decide⟩)) overwriting = some (final, log) ∧
      (consumed log, evicted log, unread final.shared, pushed log) = ([2], [1], [3], [1, 2, 3]) ∧
      Conserved 2 log final.shared := by
  obtain ⟨final, log, ran, facts⟩ := overwriting_run
  have exact_ := stream_conserved_iff 2 (by decide) (by decide) _ overwriting final log
    (by simp [overwriting, Action.Makes, Streams])
    (by simp [overwriting, Action.Makes, Call.Copies, Call.elements?, Source.Copies]) ran
  exact ⟨final, log, ran, facts, exact_.mpr (.inl (by decide))⟩

-- The third element is refused by buffer_.at, and nobody ever sees it again.
theorem stream_lost_by_vector_bool :
    ¬∀ (c : Nat) (_ : 1 ≤ c) (_ : c < sizeModulus) (reserved : Reserved ((c + 1) % sizeModulus))
        (actions : List (Action (Call Bool))) (final : State (CircularBuffer Bool) (Call Bool))
        (log : List (Executed Bool)),
      (∀ action ∈ actions, action.Makes Streams) → (∀ action ∈ actions, action.Makes Call.Copies) →
      Monitor.exec program (start (construct c reserved)) actions = some (final, log) →
      Conserved c log final.shared := by
  intro always
  obtain ⟨⟨history, all, taken, lost, kept, -⟩, -⟩ :=
    always 1 (by decide) (by decide) ⟨64, by decide, by decide⟩
      [.enter 0 (.push (.copies true)), .enter 0 (.push (.copies false)), .enter 0 (.push (.copies true))] _ _
      (by simp [Action.Makes, Streams]) (by simp [Action.Makes, Call.Copies, Call.elements?, Source.Copies]) rfl
  have count := length_eq_fates history
  rw [taken, lost, kept, ← List.length_map, all] at count
  exact absurd count (by decide)

end Runs

end Pirks.CircularBuffer
