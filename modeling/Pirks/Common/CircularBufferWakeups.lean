import Pirks.Common.CircularBufferThreads

set_option autoImplicit false

namespace Pirks

def Call.Copies {T : Type} (call : Call T) : Prop :=
  ∀ elements, call.elements? = some elements → ∀ element ∈ elements, element.Copies

namespace CircularBuffer

open Execution
open Monitor (Entry)

variable {T : Type}

def Quiet (b : CircularBuffer T) : Prop := b.active = true ∧ b.startIndex = b.endIndex

variable {size capacity : Nat} {b : CircularBuffer T} {queue : List T}

theorem copies_eq_map {elements : List (Source T)} (copied : ∀ element ∈ elements, element.Copies) :
    elements = (elements.map Source.value).map .copies := by
  induction elements with
  | nil => rfl
  | cons element elements ih =>
    have first := copied element (by simp)
    have rest := ih fun other member => copied other (by simp [member])
    cases element with
    | copies value => simpa [Source.value] using rest
    | throws value left => exact absurd first (by simp [Source.Copies])

theorem storeAll_exact (holds : Holds size size b queue) (positive : 0 < size)
    {elements : List (Source T)} (copied : ∀ element ∈ elements, element.Copies) :
    ∃ b', perform (storeAll size elements) ⟨b, false⟩ = (.ok (), ⟨b', false⟩) := by
  have here : Holds size size (Locked.mk b false).buffer queue := holds
  obtain ⟨b', ran, -, -⟩ := perform_storeAll_copies here positive (elements.map Source.value)
  rw [← copies_eq_map copied] at ran
  exact ⟨b', ran⟩

theorem storeAll_sizeZero (holds : Holds 0 capacity b queue) (elements : List (Source T)) :
    ∃ result, perform (storeAll capacity elements) ⟨b, false⟩ = (result, ⟨b, false⟩) := by
  have here : Holds 0 capacity (Locked.mk b false).buffer queue := holds
  cases elements with
  | nil => exact ⟨.ok (), rfl⟩
  | cons element elements =>
    have refused := perform_store_outOfRange here (Nat.zero_le _) element
    exact ⟨.error (.outOfRange b.endIndex), by simp [storeAll, perform_bind, refused]⟩

theorem storeAll_overflow (holds : Holds size capacity b queue) (spare : size < capacity)
    (below : b.endIndex ≤ size) (values : List T) (long : size < b.endIndex + values.length) :
    ∃ b', perform (storeAll capacity (values.map .copies)) ⟨b, false⟩ =
        (.error (.outOfRange size), ⟨b', false⟩) ∧
      b'.startIndex = b.startIndex ∧ b'.endIndex = size := by
  induction values generalizing b queue with
  | nil =>
    simp only [List.length_nil] at long
    omega
  | cons value values ih =>
    have here : Holds size capacity (Locked.mk b false).buffer queue := holds
    by_cases stored : b.endIndex < size
    · obtain ⟨stepped, ahead⟩ := holds.unwrapped_next stored spare
      have first := perform_store_copies here stored value
      have moved : (afterStore b value).endIndex = b.endIndex + 1 ∧
          (afterStore b value).startIndex = b.startIndex := by
        simp [afterStore, holds.capacity_eq, stepped]
        intro met
        exact absurd (stepped.trans met) ahead
      obtain ⟨b', ran, start, finish⟩ := ih (holds.afterStore stored value) (by omega) (by
        simp only [List.length_cons] at long
        omega)
      exact ⟨b', by simpa [storeAll, perform_bind, first, Locked.put] using ran, start.trans moved.2, finish⟩
    · have full : b.endIndex = size := by omega
      have outside : size ≤ (Locked.mk b false).buffer.endIndex := full.ge
      have first := perform_store_outOfRange here outside (.copies value)
      exact ⟨b, by simp [storeAll, perform_bind, first, full], rfl, full⟩

section Wakeups

variable [Element T]

theorem quiet_of_waits (holds : ∃ queue, Holds size capacity b queue) (call : Call T) (entry : Entry)
    (waits : (program.critical call entry b).outcome = .waits) :
    Quiet (program.critical call entry b).shared := by
  obtain ⟨queue, held⟩ := holds
  have effect := critical_effect held call entry
  generalize program.critical call entry b = result at effect waits ⊢
  cases effect with
  | slept _ _ _ active empty => exact ⟨active, held.empty_iff.mpr empty⟩
  | _ => cases waits

theorem quiet_of_silent (holds : ∃ queue, Holds size capacity b queue) (call : Call T) (entry : Entry)
    (geometry : capacity = size ∨ size = 0) (copies : call.Copies)
    (silent : (program.critical call entry b).notifies = false) (quiet : Quiet b) :
    Quiet (program.critical call entry b).shared := by
  obtain ⟨queue, held⟩ := holds
  have empty := held.empty_iff.mp quiet.2
  have effect := critical_effect held call entry
  generalize program.critical call entry b = result at effect silent ⊢
  cases effect with
  | refused | observed | divided | gaveUp | slept => exact quiet
  | pushed | ended => cases silent
  | threw elements fault b' pushes active ran =>
    rcases Nat.eq_zero_or_pos size with none | positive
    · subst none
      obtain ⟨_, same⟩ := storeAll_sizeZero held elements
      rw [ran] at same
      cases same
      exact quiet
    · obtain rfl : capacity = size := by omega
      obtain ⟨_, same⟩ := storeAll_exact held positive (copies elements pushes)
      rw [ran] at same
      cases same
  | peeked delay _ first rest _ _ available => simp [empty] at available
  | took _ first rest _ _ available => simp [empty] at available
  | tookBatch _ _ _ _ _ _ _ available => exact absurd empty available

def NoLostWakeup (b : CircularBuffer T) : Prop :=
  ∀ actions final log, (∀ action ∈ actions, Monitor.Action.Makes Call.Copies action) →
    Monitor.exec program (Monitor.start b) actions = some (final, log) →
    ∀ thread call, final.phase thread = .waiting call false → Quiet final.shared

-- One consumer waits; then one producer pushes a span that overruns the vector.
theorem overrun_loses_wakeup (c : Nat) (reserved : Reserved ((c + 1) % sizeModulus))
    (positive : 0 < (c + 1) % sizeModulus) (spare : (c + 1) % sizeModulus < reserved.capacity) :
    ¬NoLostWakeup (construct c reserved : CircularBuffer T) := by
  intro always
  let values : List T := List.replicate ((c + 1) % sizeModulus + 1) Element.initial
  have holds := construct_holds (T := T) c reserved
  obtain ⟨b', ran, start, finish⟩ := storeAll_overflow holds spare (Nat.zero_le _) values (by
    simp [values, construct])
  have asleep : program.critical .pop .enter (construct c reserved : CircularBuffer T) =
      ⟨construct c reserved, false, .waits⟩ := rfl
  have threw : program.critical (.pushSpan (values.map .copies)) .enter
      (construct c reserved : CircularBuffer T) =
        ⟨b', false, .returned (.error (.outOfRange ((c + 1) % sizeModulus)))⟩ := by
    rw [critical_immediate (fun _ : Unit => Reply.done) rfl]
    have active : (construct c reserved : CircularBuffer T).active = true := rfl
    have same : (construct c reserved : CircularBuffer T).buffer.capacity = reserved.capacity := rfl
    simp [pushSpan, perform_bind, active, same, ran]
  let actions : List (Monitor.Action (Call T)) :=
    [.enter 0 .pop, .enter 1 (.pushSpan (values.map .copies))]
  have played : ∃ final log, Monitor.exec program (Monitor.start (construct c reserved)) actions =
      some (final, log) ∧ final.phase 0 = .waiting .pop false ∧ final.shared = b' := by
    simp [actions, Monitor.exec, Machine.run, Monitor.step, Monitor.start, Monitor.commit, asleep,
      Monitor.Result.phase, Monitor.notifyAll, threw]
  obtain ⟨final, log, perform_, waiter, shared⟩ := played
  have copied : ∀ action ∈ actions, Monitor.Action.Makes Call.Copies action := by
    intro action member
    rcases List.mem_pair.mp member with rfl | rfl
    · intro elements none
      cases none
    · intro elements pushed element inside
      cases pushed
      obtain ⟨value, -, rfl⟩ := List.mem_map.mp inside
      trivial
  have quiet := always actions final log copied perform_ 0 .pop waiter
  rw [shared] at quiet
  have zero : b'.startIndex = 0 := start
  have same := quiet.2
  omega

theorem noLostWakeup_iff (c : Nat) (reserved : Reserved ((c + 1) % sizeModulus)) :
    NoLostWakeup (construct c reserved : CircularBuffer T) ↔
      reserved.capacity = (c + 1) % sizeModulus ∨ (c + 1) % sizeModulus = 0 := by
  constructor
  · intro always
    by_contra other
    have enough := reserved.enough
    exact overrun_loses_wakeup c reserved (by omega) (by omega) always
  · intro geometry actions final log permitted ran thread call waiter
    refine Monitor.unnotified_quiet
      (fun b => ∃ queue, Holds ((c + 1) % sizeModulus) reserved.capacity b queue) Quiet
      ?_ ?_ ?_ permitted ⟨[], construct_holds c reserved⟩ ran waiter
    · intro call entry before _ _ holds
      exact critical_kept call entry holds
    · intro call entry before _ _ holds waits
      exact quiet_of_waits holds call entry waits
    · intro call entry before copies _ holds silent quiet
      exact quiet_of_silent holds call entry geometry copies silent quiet

-- std::vector<bool> rounds capacity() up to a machine word.
theorem noLostWakeup_fails_for_vector_bool :
    ¬∀ (c : Nat) (reserved : Reserved ((c + 1) % sizeModulus)),
      NoLostWakeup (construct c reserved : CircularBuffer Bool) := by
  intro always
  have quiet := always 1 ⟨64, by decide, by decide⟩
    [.enter 0 .pop, .enter 1 (.pushSpan [.copies true, .copies false, .copies true])] _ _
    (by simp [Monitor.Action.Makes, Call.Copies, Call.elements?, Source.Copies]) rfl 0 .pop rfl
  exact absurd quiet.2 (by decide)

end Wakeups

section Timeouts

def Asks : Call T → Prop
  | .peekFor _ | .popFor _ => True
  | .popBatchFor _ maxElements _ => 0 < maxElements
  | _ => False

/-- 'Nothing available': std::nullopt from pop(delay) or peek(delay), 0 from the timed batch pop. -/
def ReportsNothing : Call T → Monitor.Outcome (Answer T) → Prop
  | .peekFor _, .returned (.ok (.element none)) => True
  | .popFor _, .returned (.ok (.element none)) => True
  | .popBatchFor _ maxElements _, .returned (.ok (.batch 0 _)) => 0 < maxElements
  | _, _ => False

def Exhausted (b : CircularBuffer T) : Prop := b.startIndex = b.endIndex ∨ b.active = false

variable {call : Call T}

theorem ReportsNothing.asks {outcome : Monitor.Outcome (Answer T)}
    (reports : ReportsNothing call outcome) : Asks call := by
  unfold ReportsNothing at reports
  split at reports <;> simp_all [Asks]

theorem tookBatch_reports {outBuffer outBuffer' : List T} {maxElements : Nat}
    (pops : call = .popBatch outBuffer maxElements ∨ ∃ delay, call = .popBatchFor outBuffer maxElements delay)
    (available : queue ≠ []) :
    ¬ReportsNothing call (.returned (.ok (.batch (min maxElements queue.length) outBuffer'))) := by
  intro reports
  have asks := reports.asks
  have some_ := List.length_pos_of_ne_nil available
  rcases pops with rfl | ⟨delay, rfl⟩
  · exact asks
  · have positive : 0 < maxElements := asks
    have count : min maxElements queue.length ≠ 0 := by omega
    cases taken : min maxElements queue.length with
    | zero => exact count taken
    | succ rest => simp [ReportsNothing, taken] at reports

variable [Element T]

theorem nothing_reported {blocking : Blocking T} (blocks : blocking? call = some blocking)
    (asks : Asks call) : ReportsNothing call (.returned (.ok blocking.nothing)) := by
  cases call <;> simp only [blocking?, Option.some.injEq, reduceCtorEq] at blocks <;> subst blocks
  case peekFor => trivial
  case popFor => trivial
  case popBatchFor outBuffer maxElements delay => exact asks
  all_goals exact asks.elim

-- The only report that can be false is the one made on the way back from a timeout.
theorem report_true_iff (holds : ∃ queue, Holds size capacity b queue) (call : Call T) (entry : Entry) :
    (ReportsNothing call (program.critical call entry b).outcome →
        Exhausted (program.critical call entry b).shared) ↔
      (entry = .resume true → Asks call → Exhausted b) := by
  obtain ⟨queue, held⟩ := holds
  have effect := critical_effect held call entry
  generalize program.critical call entry b = result at effect ⊢
  cases effect with
  | gaveUp blocking blocks cause =>
    constructor
    · intro truthful _ asks
      exact truthful (nothing_reported blocks asks)
    · intro condition reports
      rcases cause with late | stopped
      · exact condition late reports.asks
      · exact .inr stopped
  | slept _ _ inTime _ _ => exact iff_of_true (fun reports => absurd reports.asks (by
      cases call <;> simp [ReportsNothing] at reports)) (fun late => absurd late inTime)
  | peeked delay looks _ _ inTime _ _ =>
    subst looks
    exact iff_of_true (fun reports => reports.elim) (fun late => absurd late inTime)
  | took pops _ _ inTime _ _ =>
    refine iff_of_true (fun reports => ?_) (fun late => absurd late inTime)
    rcases pops with rfl | ⟨delay, rfl⟩ <;> exact reports.elim
  | tookBatch _ _ pops _ _ inTime _ available _ _ =>
    exact iff_of_true (fun reports => absurd reports (tookBatch_reports pops available))
      (fun late => absurd late inTime)
  | refused _ pushes | pushed _ _ pushes | threw _ _ _ pushes =>
    have silent : ¬Asks call := by
      cases call <;> simp_all [Asks, Call.elements?]
    exact iff_of_true (fun reports => absurd reports.asks silent) (fun _ asks => absurd asks silent)
  | observed _ looks =>
    have silent : ¬Asks call := by
      rcases looks with rfl | rfl | rfl <;> simp [Asks]
    exact iff_of_true (fun reports => absurd reports.asks silent) (fun _ asks => absurd asks silent)
  | divided same | ended same =>
    subst same
    exact iff_of_true (fun reports => reports.elim) (fun _ asks => asks.elim)

theorem reports_true_iff (c : Nat) (reserved : Reserved ((c + 1) % sizeModulus))
    (actions : List (Monitor.Action (Call T))) (final : Monitor.State (CircularBuffer T) (Call T))
    (log : List (Monitor.Section (CircularBuffer T) (Call T) (Answer T)))
    (ran : Monitor.exec program (Monitor.start (construct c reserved)) actions = some (final, log)) :
    (∀ executed ∈ log, ReportsNothing executed.call executed.result.outcome →
        Exhausted executed.result.shared) ↔
      (∀ executed ∈ log, executed.entry = .resume true → Asks executed.call →
        Exhausted executed.before) := by
  have each := (exec_kept
    (fun executed => (ReportsNothing executed.call executed.result.outcome →
        Exhausted executed.result.shared) ↔
      (executed.entry = .resume true → Asks executed.call → Exhausted executed.before))
    (fun _ call entry _ queue holds => report_true_iff ⟨queue, holds⟩ call entry) ran).2
  exact forall₂_congr each

theorem reports_true_iff_quiet_timeout :
    ∃ final log,
      Monitor.exec program (Monitor.start (construct 3 ⟨4, by decide, by decide⟩ : CircularBuffer Nat))
        [.enter 0 (.popFor 20), .expire 0, .resume 0, .enter 1 (.push (.copies 7))] =
          some (final, log) ∧
      ((∀ executed ∈ log, ReportsNothing executed.call executed.result.outcome →
          Exhausted executed.result.shared) ↔
        (∀ executed ∈ log, executed.entry = .resume true → Asks executed.call →
          Exhausted executed.before)) :=
  ⟨_, _, rfl, reports_true_iff 3 ⟨4, by decide, by decide⟩
    [.enter 0 (.popFor 20), .expire 0, .resume 0, .enter 1 (.push (.copies 7))] _ _ rfl⟩

-- The timeout fires, an element is pushed, and the consumer gets the mutex back after that.
theorem reports_fail_after_late_push :
    ¬∀ (c : Nat) (reserved : Reserved ((c + 1) % sizeModulus))
        (actions : List (Monitor.Action (Call Nat))) (final : Monitor.State (CircularBuffer Nat) (Call Nat))
        (log : List (Monitor.Section (CircularBuffer Nat) (Call Nat) (Answer Nat))),
      Monitor.exec program (Monitor.start (construct c reserved)) actions = some (final, log) →
      ∀ executed ∈ log, ReportsNothing executed.call executed.result.outcome →
        Exhausted executed.result.shared := by
  intro always
  have truthful := always 3 ⟨4, by decide, by decide⟩
    [.enter 0 (.popFor 20), .expire 0, .enter 1 (.push (.copies 7)), .resume 0] _ _ rfl
  rcases truthful _ (.tail _ (.tail _ (.head _))) trivial with empty | stopped
  · exact absurd empty (by decide)
  · exact absurd stopped (by decide)

end Timeouts

end CircularBuffer

end Pirks
