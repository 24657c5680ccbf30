import Pirks.Common.CircularBufferThreads

set_option autoImplicit false

namespace Pirks

def Fault.Unsafe : Fault → Prop
  | .outOfRange _ | .divideByZero => True
  | .copyThrew | .undefinedIndex _ => False

namespace CircularBuffer

open Execution Monitor

variable {T : Type}

def Faults : Outcome (Answer T) → Prop
  | .returned (.error fault) => fault.Unsafe
  | _ => False

-- The stores that a push attempts, and those it completes: the first copy that throws ends it.
def attempted : List (Source T) → Nat
  | [] => 0
  | .copies _ :: elements => attempted elements + 1
  | .throws _ _ :: _ => 1

def completed : List (Source T) → Nat
  | .copies _ :: elements => completed elements + 1
  | _ => 0

def stores (call : Call T) : Nat := (call.elements?.map completed).getD 0

def Admits (size capacity stored : Nat) (call : Call T) : Prop :=
  (call = .isFull → 0 < capacity) ∧
    ∀ elements, call.elements? = some elements → stored + attempted elements ≤ size

/-- No call made before the first stop() needs more slots than the vector has. -/
def NeverPasses (size capacity : Nat) : Nat → List (Action (Call T)) → Prop
  | _, [] => True
  | stored, .enter _ call :: rest =>
      Admits size capacity stored call ∧
        (call ≠ .stop → NeverPasses size capacity (stored + stores call) rest)
  | stored, _ :: rest => NeverPasses size capacity stored rest

variable {size capacity : Nat} {b : CircularBuffer T} {queue : List T}

theorem storeAll_spare (holds : Holds size capacity b queue) (spare : ¬(capacity = size ∧ 0 < size))
    (elements : List (Source T)) :
    ∃ result b', perform (storeAll capacity elements) ⟨b, false⟩ = (result, ⟨b', false⟩) ∧
      ((∀ fault, result = .error fault → ¬fault.Unsafe) ↔ b.endIndex + attempted elements ≤ size) ∧
      (b.endIndex + attempted elements ≤ size → b'.endIndex = b.endIndex + completed elements) := by
  induction elements generalizing b queue with
  | nil =>
    have room := holds.size_le
    have low : b.endIndex ≤ size := by
      rcases Nat.lt_or_ge size capacity with more | exact_
      · have never := holds.unwrapped more
        rw [holds.unwrapped_end more]
        exact never
      · have inside := holds.start_lt
        have bounded := holds.length_lt
        have zero : capacity = 0 := by omega
        subst zero
        rw [holds.end_eq, Nat.mod_zero]
        omega
    exact ⟨.ok (), b, rfl, by simpa [attempted] using low, by simp [completed]⟩
  | cons element elements ih =>
    have here : Holds size capacity (Locked.mk b false).buffer queue := holds
    have room := holds.size_le
    rcases perform_store_cases here element with
      ⟨value, rfl, stored, ran⟩ | ⟨fault, b', ran, -, -, -, same, cause⟩
    · obtain ⟨result, b', followed, safe, moved⟩ := ih (holds.afterStore stored value)
      have step : (afterStore b value).endIndex = b.endIndex + 1 := by
        change next b.buffer.capacity b.endIndex = _
        rw [holds.capacity_eq]
        have inside : b.endIndex < size := stored
        exact (holds.unwrapped_next stored (by omega)).1
      rw [step] at safe moved
      refine ⟨result, b', by simpa [storeAll, perform_bind, ran, Locked.put] using followed, ?_, ?_⟩
      · simp only [attempted]
        rw [safe, Nat.add_right_comm, Nat.add_assoc]
      · intro fits
        simp only [attempted, completed] at fits ⊢
        rw [moved (by omega)]
        omega
    · have ended : perform (storeAll capacity (element :: elements)) ⟨b, false⟩ = (.error fault, ⟨b', false⟩) := by
        simp [storeAll, perform_bind, ran, Locked.put]
      refine ⟨.error fault, b', ended, ?_⟩
      rcases cause with ⟨rfl, outside, -⟩ | ⟨rfl, threw, stored⟩
      · have full : size ≤ b.endIndex := outside
        have some_ : 0 < attempted (element :: elements) := by cases element <;> simp [attempted]
        exact ⟨by simp [Fault.Unsafe]; omega, fun fits => by omega⟩
      · have within : b.endIndex < size := stored
        cases element with
        | copies value => exact absurd trivial threw
        | throws value left =>
          refine ⟨by simp [Fault.Unsafe, attempted]; omega, fun _ => ?_⟩
          simpa [completed] using same

theorem spare_stores (holds : Holds size capacity b queue) (spare : ¬(capacity = size ∧ 0 < size))
    {elements : List (Source T)} {result : Except Fault Unit} {b' : CircularBuffer T}
    (ran : perform (storeAll capacity elements) ⟨b, false⟩ = (result, ⟨b', false⟩)) :
    b'.active = b.active ∧
      ((∀ fault, result = .error fault → ¬fault.Unsafe) ↔ b.endIndex + attempted elements ≤ size) ∧
      (b.endIndex + attempted elements ≤ size → b'.endIndex = b.endIndex + completed elements) := by
  obtain ⟨_, _, same, safe, moved⟩ := storeAll_spare holds spare elements
  obtain ⟨_, _, _, kept, -, alive⟩ := storeAll_cases holds elements
  rw [ran] at same kept
  cases same
  cases kept
  exact ⟨alive, safe, moved⟩

theorem storeAll_exact_safe (holds : Holds size size b queue) (positive : 0 < size)
    (elements : List (Source T)) :
    ∃ result b', perform (storeAll size elements) ⟨b, false⟩ = (result, ⟨b', false⟩) ∧
      ∀ fault, result = .error fault → ¬fault.Unsafe := by
  induction elements generalizing b queue with
  | nil => exact ⟨.ok (), b, rfl, by simp⟩
  | cons element elements ih =>
    have here : Holds size size (Locked.mk b false).buffer queue := holds
    rcases perform_store_cases here element with
      ⟨value, rfl, stored, ran⟩ | ⟨fault, b', ran, -, -, -, -, cause⟩
    · obtain ⟨result, b', followed, safe⟩ := ih (holds.afterStore stored value)
      exact ⟨result, b', by simpa [storeAll, perform_bind, ran, Locked.put] using followed, safe⟩
    · refine ⟨.error fault, b', by simp [storeAll, perform_bind, ran, Locked.put], ?_⟩
      rcases cause with ⟨-, outside, -⟩ | ⟨rfl, -, -⟩
      · have inside := holds.end_lt positive
        have outside' : size ≤ b.endIndex := outside
        omega
      · simp [Fault.Unsafe]

variable [Element T] {call : Call T} {entry : Entry}

def Waits (call : Call T) : Prop := ∃ blocking, blocking? call = some blocking

theorem waits_admitted (waits : Waits call) (stored : Nat) :
    Admits size capacity stored call ∧ stores call = 0 ∧ call ≠ .stop := by
  obtain ⟨blocking, blocks⟩ := waits
  have none_ := blocking_pushes_nothing blocks
  have other : call ≠ .isFull ∧ call ≠ .stop := by
    constructor <;> rintro rfl <;> cases blocks
  simp [Admits, stores, none_, other]

theorem critical_exact_safe (holds : Holds size size b queue) (positive : 0 < size) (call : Call T)
    (entry : Entry) : ¬Faults (program.critical call entry b).outcome := by
  have effect := critical_effect holds call entry
  generalize program.critical call entry b = result at effect ⊢
  cases effect with
  | threw elements fault b' _ _ ran =>
    obtain ⟨_, _, same, safe⟩ := storeAll_exact_safe holds positive elements
    rw [ran] at same
    cases same
    exact safe fault rfl
  | divided _ _ zero => omega
  | refused | pushed | observed | ended | gaveUp | slept | peeked | took | tookBatch => exact id

theorem critical_stopped_safe (holds : Holds size capacity b queue) (stopped : b.active = false)
    (call : Call T) (entry : Entry) :
    ¬Faults (program.critical call entry b).outcome ∧
      (program.critical call entry b).shared.active = false := by
  have effect := critical_effect holds call entry
  generalize program.critical call entry b = result at effect ⊢
  cases effect with
  | refused | observed | gaveUp => exact ⟨id, stopped⟩
  | ended => exact ⟨id, rfl⟩
  | pushed _ _ _ active | threw _ _ _ _ active | divided _ active | slept _ _ _ active
  | peeked _ _ _ _ _ active | took _ _ _ _ active | tookBatch _ _ _ _ _ _ active =>
    rw [stopped] at active
    cases active

theorem critical_active (holds : Holds size capacity b queue)
    (active : b.active = true) (goes : call ≠ .stop) :
    (program.critical call entry b).shared.active = true := by
  have effect := critical_effect holds call entry
  generalize program.critical call entry b = result at effect ⊢
  cases effect with
  | refused _ _ stopped =>
    rw [stopped] at active
    cases active
  | pushed elements b' _ _ ran | threw elements _ b' _ _ ran =>
    obtain ⟨_, _, _, same, -, kept⟩ := storeAll_cases holds elements
    rw [ran] at same
    cases same
    exact kept.trans active
  | ended stops => exact absurd stops goes
  | tookBatch _ _ _ _ b' _ _ available ran =>
    obtain ⟨-, kept, -⟩ := holds.afterBatch available ran
    exact kept.trans active
  | observed | divided | gaveUp | slept | peeked | took => exact active

theorem critical_spare_safe (holds : Holds size capacity b queue)
    (spare : ¬(capacity = size ∧ 0 < size)) (active : b.active = true) (call : Call T) (entry : Entry) :
    (¬Faults (program.critical call entry b).outcome ↔ Admits size capacity b.endIndex call) ∧
    (¬Faults (program.critical call entry b).outcome → call ≠ .stop →
      (program.critical call entry b).shared.active = true ∧
        (program.critical call entry b).shared.endIndex = b.endIndex + stores call) := by
  have effect := critical_effect holds call entry
  generalize program.critical call entry b = result at effect ⊢
  have pushing {elements : List (Source T)} (pushes : call.elements? = some elements) :
      (Admits size capacity b.endIndex call ↔ b.endIndex + attempted elements ≤ size) ∧
        stores call = completed elements := by
    have other : call ≠ .isFull := by
      rintro rfl
      cases pushes
    simp [Admits, stores, pushes, other]
  have silent (none_ : call.elements? = none) (divides : call = .isFull → 0 < capacity) :
      Admits size capacity b.endIndex call ∧ stores call = 0 := by
    simpa [Admits, stores, none_] using divides
  have served (waits : Waits call) : Admits size capacity b.endIndex call ∧ stores call = 0 := by
    obtain ⟨admits, count, -⟩ := waits_admitted waits b.endIndex
    exact ⟨admits, count⟩
  cases effect with
  | refused elements pushes stopped =>
    rw [stopped] at active
    cases active
  | pushed elements b' pushes _ ran =>
    obtain ⟨alive, safe, moved⟩ := spare_stores holds spare ran
    obtain ⟨admits, count⟩ := pushing pushes
    have fits := safe.mp (by simp)
    rw [admits, count]
    exact ⟨iff_of_true id fits, fun _ _ => ⟨alive.trans active, moved fits⟩⟩
  | threw elements fault b' pushes _ ran =>
    obtain ⟨alive, safe, moved⟩ := spare_stores holds spare ran
    obtain ⟨admits, count⟩ := pushing pushes
    have exact_ : ¬fault.Unsafe ↔ b.endIndex + attempted elements ≤ size := by
      rw [← safe]
      simp
    rw [admits, count]
    exact ⟨exact_, fun fine _ => ⟨alive.trans active, moved (exact_.mp fine)⟩⟩
  | divided asks _ zero =>
    refine ⟨iff_of_false (fun fine => fine trivial) (fun admits => ?_), fun fine => absurd trivial fine⟩
    have positive := admits.1 asks
    omega
  | observed _ looks divides =>
    have none_ : call.elements? = none := by
      rcases looks with rfl | rfl | rfl <;> rfl
    obtain ⟨admits, count⟩ := silent none_ fun asks => divides asks active
    rw [count]
    exact ⟨iff_of_true id admits, fun _ _ => ⟨active, rfl⟩⟩
  | ended stops =>
    subst stops
    exact ⟨iff_of_true id (silent rfl (by simp)).1, fun _ other => absurd rfl other⟩
  | gaveUp blocking blocks | slept blocking blocks =>
    obtain ⟨admits, count⟩ := served ⟨blocking, blocks⟩
    rw [count]
    exact ⟨iff_of_true id admits, fun _ _ => ⟨active, rfl⟩⟩
  | peeked delay looks =>
    obtain ⟨admits, count⟩ := served ⟨peekFor delay, by rw [looks, blocking?]⟩
    rw [count]
    exact ⟨iff_of_true id admits, fun _ _ => ⟨active, rfl⟩⟩
  | took pops =>
    obtain ⟨admits, count⟩ := served (by rcases pops with rfl | ⟨_, rfl⟩ <;> exact ⟨_, rfl⟩)
    rw [count]
    exact ⟨iff_of_true id admits, fun _ _ => ⟨active, rfl⟩⟩
  | tookBatch outBuffer maxElements pops outBuffer' b' _ _ available ran =>
    obtain ⟨admits, count⟩ := served (by rcases pops with rfl | ⟨_, rfl⟩ <;> exact ⟨_, rfl⟩)
    obtain ⟨-, alive, kept⟩ := holds.afterBatch available ran
    rw [count]
    exact ⟨iff_of_true id admits, fun _ _ => ⟨alive.trans active, kept⟩⟩

theorem waits_blocking (holds : Holds size capacity b queue) (call : Call T) (entry : Entry)
    (waits : (program.critical call entry b).outcome = .waits) : Waits call := by
  have effect := critical_effect holds call entry
  generalize program.critical call entry b = result at effect waits
  cases effect with
  | slept blocking blocks => exact ⟨blocking, blocks⟩
  | refused | pushed | threw | observed | divided | ended | gaveUp | peeked | took | tookBatch => cases waits

def Orderly (state : State (CircularBuffer T) (Call T)) : Prop :=
  ∀ thread, Legal program Waits (state.phase thread)

theorem stopped_run_quiet {state final : State (CircularBuffer T) (Call T)}
    {actions : List (Action (Call T))} {log : List (Section (CircularBuffer T) (Call T) (Answer T))}
    (holds : ∃ queue, Holds size capacity state.shared queue) (stopped : state.shared.active = false)
    (ran : Monitor.exec program state actions = some (final, log)) :
    ∀ executed ∈ log, executed.before.active = false ∧ ¬Faults executed.result.outcome := by
  refine (Machine.run_records
    (fun state : State (CircularBuffer T) (Call T) =>
      (∃ queue, Holds size capacity state.shared queue) ∧ state.shared.active = false)
    (fun executed => executed.before.active = false ∧ ¬Faults executed.result.outcome) ?_
    (fun _ _ => trivial) ⟨holds, stopped⟩ ran).2
  rintro state action next new - ⟨⟨queue, held⟩, quiet⟩ taken
  rcases step_cases taken with
    ⟨thread, call, entry, -, rfl, rfl⟩ | ⟨thread, call, timedOut, -, rfl, rfl⟩
  · obtain ⟨safe, after⟩ := critical_stopped_safe held quiet call entry
    exact ⟨⟨critical_kept call entry ⟨queue, held⟩, after⟩, by simpa [executed] using And.intro quiet safe⟩
  · exact ⟨⟨⟨queue, held⟩, quiet⟩, by simp⟩

theorem spare_run_safe_iff (spare : ¬(capacity = size ∧ 0 < size)) {actions : List (Action (Call T))}
    {state final : State (CircularBuffer T) (Call T)}
    {log : List (Section (CircularBuffer T) (Call T) (Answer T))}
    (holds : ∃ queue, Holds size capacity state.shared queue) (active : state.shared.active = true)
    (orderly : Orderly state) (ran : Monitor.exec program state actions = some (final, log)) :
    (∀ executed ∈ log, ¬Faults executed.result.outcome) ↔
      NeverPasses size capacity state.shared.endIndex actions := by
  induction actions generalizing state log with
  | nil =>
    simp only [Machine.run_nil, Option.some.injEq, Prod.mk.injEq] at ran
    obtain ⟨rfl, rfl⟩ := ran
    simp [NeverPasses]
  | cons action rest ih =>
    obtain ⟨next, new, later, taken, followed, rfl⟩ := Machine.run_cons.mp ran
    obtain ⟨queue, held⟩ := holds
    rcases step_cases taken with
      ⟨thread, call, entry, began, rfl, rfl⟩ | ⟨thread, call, timedOut, roused, rfl, rfl⟩
    · obtain ⟨admits, frame⟩ := critical_spare_safe held spare active call entry
      have kept := critical_kept call entry ⟨queue, held⟩
      have legal : Orderly (commit program state thread call entry) :=
        commit_legal orderly (fun waits => waits_blocking held call entry waits) thread
      have split_ : (∀ section_ ∈ [executed program state thread call entry] ++ later,
          ¬Faults section_.result.outcome) ↔
          Admits size capacity state.shared.endIndex call ∧
            ∀ section_ ∈ later, ¬Faults section_.result.outcome := by
        simp [executed, admits]
      rw [split_]
      have after (fine : ¬Faults (program.critical call entry state.shared).outcome) (goes : call ≠ .stop) :
          (∀ section_ ∈ later, ¬Faults section_.result.outcome) ↔
            NeverPasses size capacity (state.shared.endIndex + stores call) rest := by
        obtain ⟨alive, moved⟩ := frame fine goes
        have run_ := ih kept alive legal followed
        rwa [commit_shared, moved] at run_
      cases began with
      | enter idle =>
        simp only [NeverPasses]
        apply and_congr_right
        intro admitted
        by_cases stops : call = .stop
        · subst stops
          have quiet := stopped_run_quiet kept (by rfl) followed
          exact iff_of_true (fun section_ member => (quiet section_ member).2) fun other => absurd rfl other
        · rw [after (admits.mpr admitted) stops]
          simp [stops]
      | resume awake =>
        have waiting := orderly thread
        rw [awake] at waiting
        obtain ⟨admitted, count, goes⟩ := waits_admitted waiting.1 state.shared.endIndex
        rw [after (admits.mpr admitted) goes, count]
        simp [NeverPasses, admitted]
    · have legal : Orderly (rouse state thread call timedOut) :=
        rouse_legal orderly (roused.legal orderly)
      have kept : ∃ queue, Holds size capacity (rouse state thread call timedOut).shared queue :=
        ⟨queue, held⟩
      have run_ := ih kept active legal followed
      cases roused <;> simpa [NeverPasses] using run_

theorem safe_iff (c : Nat) (reserved : Reserved ((c + 1) % sizeModulus))
    (actions : List (Action (Call T))) (final : State (CircularBuffer T) (Call T))
    (log : List (Section (CircularBuffer T) (Call T) (Answer T)))
    (ran : Monitor.exec program (start (construct c reserved)) actions = some (final, log)) :
    (∀ executed ∈ log, ¬Faults executed.result.outcome) ↔
      (reserved.capacity = (c + 1) % sizeModulus ∧ 0 < (c + 1) % sizeModulus) ∨
        NeverPasses ((c + 1) % sizeModulus) reserved.capacity 0 actions := by
  have holds : Holds _ _ (construct c reserved : CircularBuffer T) [] := construct_holds c reserved
  by_cases spare : reserved.capacity = (c + 1) % sizeModulus ∧ 0 < (c + 1) % sizeModulus
  · refine iff_of_true ?_ (.inl spare)
    apply (exec_kept (fun executed => ¬Faults executed.result.outcome) _ ran).2
    intro _ call entry before queue held
    rw [spare.1] at held
    exact critical_exact_safe held spare.2 call entry
  · rw [spare_run_safe_iff spare ⟨[], holds⟩ rfl (start_legal _) ran]
    simp [spare, start, construct]

theorem safe_iff_full_vector_bool :
    ∃ final log,
      Monitor.exec program (start (construct 1 ⟨64, by decide, by decide⟩ : CircularBuffer Bool))
        [.enter 0 (.push (.copies true)), .enter 0 (.push (.copies false)), .enter 1 .pop] =
          some (final, log) ∧
      ((∀ executed ∈ log, ¬Faults executed.result.outcome) ↔
        (64 = (1 + 1) % sizeModulus ∧ 0 < (1 + 1) % sizeModulus) ∨
          NeverPasses ((1 + 1) % sizeModulus) 64 0
            [.enter 0 (.push (.copies true)), .enter 0 (.push (.copies false)), .enter 1 .pop]) :=
  ⟨_, _, rfl, safe_iff 1 ⟨64, by decide, by decide⟩ _ _ _ rfl⟩

-- The third push reaches size() while the index still runs up to capacity().
theorem unsafe_for_vector_bool :
    ¬∀ (c : Nat) (reserved : Reserved ((c + 1) % sizeModulus)) (actions : List (Action (Call Bool)))
        (final : State (CircularBuffer Bool) (Call Bool))
        (log : List (Section (CircularBuffer Bool) (Call Bool) (Answer Bool))),
      Monitor.exec program (start (construct c reserved)) actions = some (final, log) →
      ∀ executed ∈ log, ¬Faults executed.result.outcome := by
  intro always
  have safe := always 1 ⟨64, by decide, by decide⟩
    [.enter 0 (.push (.copies true)), .enter 0 (.push (.copies false)), .enter 0 (.push (.copies true))]
    _ _ rfl
  exact safe _ (.tail _ (.tail _ (.head _))) trivial

end CircularBuffer

end Pirks
