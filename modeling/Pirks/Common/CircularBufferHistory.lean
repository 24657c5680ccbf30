import Pirks.Common.CircularBufferThreads

set_option autoImplicit false

namespace Pirks.CircularBuffer

open BoundedFifo Execution Monitor

variable {T : Type}

structure StoreStep (T : Type) where
  before : CircularBuffer T
  value : T

def storeSteps (sz : Nat) (b : CircularBuffer T) : List (Source T) → List (StoreStep T)
  | [] => []
  | element :: elements =>
      match perform (store sz element) ⟨b, false⟩ with
      | (.ok (), after) => ⟨b, element.value⟩ :: storeSteps sz after.buffer elements
      | (.error _, _) => []

-- startIndex_ moves on only when endIndex_ runs into it.
def StoreStep.evicted? (taken : StoreStep T) : Option T :=
  if next taken.before.buffer.capacity taken.before.endIndex = taken.before.startIndex then
    taken.before.buffer.elements[taken.before.startIndex]?
  else none

abbrev Executed (T : Type) := Section (CircularBuffer T) (Call T) (Answer T)

def pushSteps (executed : Executed T) : List (StoreStep T) :=
  match executed.call.elements?, executed.before.active with
  | some elements, true => storeSteps executed.before.buffer.capacity executed.before elements
  | _, _ => []

def handedOut : Call T → Outcome (Answer T) → List T
  | .pop, .returned (.ok (.element (some value))) => [value]
  | .popFor _, .returned (.ok (.element (some value))) => [value]
  | .popBatch _ _, .returned (.ok (.batch count outBuffer)) => outBuffer.take count
  | .popBatchFor _ _ _, .returned (.ok (.batch count outBuffer)) => outBuffer.take count
  | _, _ => []

def entered (log : List (Executed T)) : List T := (log.flatMap pushSteps).map StoreStep.value

def evicted (log : List (Executed T)) : List T := (log.flatMap pushSteps).filterMap StoreStep.evicted?

def consumed (log : List (Executed T)) : List T :=
  log.flatMap fun executed => handedOut executed.call executed.result.outcome

def handedIn (call : Call T) : List T := (call.elements?.getD []).map Source.value

-- What the push calls hand in that find the buffer active, whether or not it is then stored.
def pushed (log : List (Executed T)) : List T :=
  log.flatMap fun executed => if executed.before.active then handedIn executed.call else []

-- Timed peek moves the oldest element out of its slot, so it is left out here.
def Streams (call : Call T) : Prop := ∀ delay, call ≠ .peekFor delay

theorem entered_snoc (log : List (Executed T)) (executed : Executed T) :
    entered (log ++ [executed]) = entered log ++ (pushSteps executed).map StoreStep.value := by
  simp [entered]

theorem evicted_snoc (log : List (Executed T)) (executed : Executed T) :
    evicted (log ++ [executed]) = evicted log ++ (pushSteps executed).filterMap StoreStep.evicted? := by
  simp [evicted]

theorem consumed_snoc (log : List (Executed T)) (executed : Executed T) :
    consumed (log ++ [executed]) =
      consumed log ++ handedOut executed.call executed.result.outcome := by
  simp [consumed]

variable {size capacity : Nat} {b : CircularBuffer T} {queue gone taken lost : List T}

def Crowded (size : Nat) (taken : StoreStep T) : Prop :=
  taken.evicted?.isSome → (unread taken.before).length + 1 = size

theorem StoreStep.evicted?_crowded (holds : Holds size capacity b queue) (stored : b.endIndex < size)
    (value : T) : Crowded size ⟨b, value⟩ := by
  have room := holds.size_le
  intro evicts
  by_cases meets : next capacity b.endIndex = b.startIndex
  · have full := (holds.next_end_meets (by omega)).mp meets
    rw [holds.unread_eq, holds.full_exact stored full]
    exact full
  · simp [evicted?, holds.capacity_eq, meets] at evicts

theorem store_accounts (holds : Holds size capacity b queue) (stored : b.endIndex < size)
    (roomy : size ≠ 1) (accounts : Accounts gone taken lost queue) (value : T) :
    Accounts (gone ++ [value]) taken (lost ++ (StoreStep.mk b value).evicted?.toList)
      ((queue ++ [value]).rtake (capacity - 1)) := by
  have room := holds.size_le
  have bounded := holds.length_lt
  have positive : 0 < capacity := by omega
  have meets := holds.next_end_meets positive
  by_cases full : queue.length + 1 = capacity
  · have exact_ := holds.full_exact stored full
    have nonempty : queue ≠ [] := by
      rintro rfl
      simp only [List.length_nil] at full
      omega
    obtain ⟨first, rest, rfl⟩ := List.exists_cons_of_ne_nil nonempty
    have oldest : (StoreStep.mk b value).evicted? = some first := by
      simp [StoreStep.evicted?, holds.capacity_eq, meets.mpr full, holds.front]
    have kept : (first :: rest ++ [value]).rtake (capacity - 1) = rest ++ [value] := by
      simp [List.rtake, ← full]
    rw [oldest, kept]
    exact (accounts.enter [value]).evict
  · have nothing : (StoreStep.mk b value).evicted? = none := by
      simp [StoreStep.evicted?, holds.capacity_eq, meets, full]
    have kept : (queue ++ [value]).rtake (capacity - 1) = queue ++ [value] := by
      apply rtake_of_length_le
      rw [List.length_append, List.length_singleton]
      omega
    rw [nothing, kept]
    simpa using accounts.enter [value]

theorem storeSteps_cons (holds : Holds size capacity b queue) (stored : b.endIndex < size) (value : T)
    (elements : List (Source T)) :
    storeSteps capacity b (.copies value :: elements) =
      ⟨b, value⟩ :: storeSteps capacity (afterStore b value) elements := by
  have here : Holds size capacity (Locked.mk b false).buffer queue := holds
  simp [storeSteps, perform_store_copies here stored value, Locked.put, Source.value]

theorem storeAll_accounts (roomy : size ≠ 1) (holds : Holds size capacity b queue)
    (accounts : Accounts gone taken lost queue) (elements : List (Source T)) :
    ∃ result b' queue', perform (storeAll capacity elements) ⟨b, false⟩ = (result, ⟨b', false⟩) ∧
      Holds size capacity b' queue' ∧
      Accounts (gone ++ (storeSteps capacity b elements).map StoreStep.value) taken
        (lost ++ (storeSteps capacity b elements).filterMap StoreStep.evicted?) queue' ∧
      ∀ step ∈ storeSteps capacity b elements, Crowded size step := by
  induction elements generalizing b queue gone lost with
  | nil => exact ⟨.ok (), b, queue, rfl, holds, by simpa [storeSteps] using accounts, by simp [storeSteps]⟩
  | cons element elements ih =>
    have here : Holds size capacity (Locked.mk b false).buffer queue := holds
    rcases perform_store_cases here element with
      ⟨value, rfl, stored, ran⟩ | ⟨fault, b', ran, held, -⟩
    · obtain ⟨result, b', queue', followed, held, counted, crowded⟩ :=
        ih (holds.afterStore stored value) (store_accounts holds stored roomy accounts value)
      have first : Crowded size ⟨b, value⟩ := StoreStep.evicted?_crowded holds stored value
      rw [storeSteps_cons holds stored]
      refine ⟨result, b', queue', by simpa [storeAll, perform_bind, ran, Locked.put] using followed, held,
        ?_, by simpa using ⟨first, crowded⟩⟩
      cases evicts : (StoreStep.mk b value).evicted? <;> simpa [evicts] using counted
    · have none_ : storeSteps capacity b (element :: elements) = [] := by simp [storeSteps, ran]
      rw [none_]
      exact ⟨.error fault, b', queue, by simp [storeAll, perform_bind, ran, Locked.put], held,
        by simpa using accounts, by simp⟩

variable {call : Call T} {entry : Entry}

theorem push_hands_nothing {elements : List (Source T)} (pushes : call.elements? = some elements)
    (outcome : Outcome (Answer T)) : handedOut call outcome = [] := by
  cases call <;> simp_all [Call.elements?, handedOut]

def Recorded (size capacity : Nat) (b : CircularBuffer T) (log : List (Executed T)) : Prop :=
  ∃ queue, Holds size capacity b queue ∧
    Accounts (entered log) (consumed log) (evicted log) queue ∧
    ∀ step ∈ log.flatMap pushSteps, Crowded size step

theorem Recorded.unchanged {log : List (Executed T)} {executed : Executed T}
    (crowded : ∀ step ∈ log.flatMap pushSteps, Crowded size step)
    (accounts : Accounts (entered log) (consumed log) (evicted log) queue)
    (pushes : pushSteps executed = [])
    (hands : handedOut executed.call executed.result.outcome = [])
    (holds : Holds size capacity b queue) : Recorded size capacity b (log ++ [executed]) := by
  refine ⟨queue, holds, ?_, by simpa [pushes] using crowded⟩
  rw [entered_snoc, consumed_snoc, evicted_snoc, pushes, hands]
  simpa using accounts

variable [Element T]

theorem blocking_nothing {blocking : Blocking T} (blocks : blocking? call = some blocking) :
    handedOut call (.returned (.ok blocking.nothing)) = [] := by
  cases call <;> simp only [blocking?, Option.some.injEq, reduceCtorEq] at blocks <;> subst blocks <;>
    rfl

theorem critical_recorded (roomy : size ≠ 1) (streams : Streams call) {log : List (Executed T)}
    (recorded : Recorded size capacity b log) (thread : Nat) :
    Recorded size capacity (program.critical call entry b).shared
      (log ++ [⟨thread, call, entry, b, program.critical call entry b⟩]) := by
  obtain ⟨queue, holds, accounts, crowded⟩ := recorded
  have effect := critical_effect holds call entry
  generalize program.critical call entry b = result at effect ⊢
  cases effect with
  | refused elements pushes stopped =>
    exact Recorded.unchanged crowded accounts (by simp [pushSteps, stopped])
      (push_hands_nothing pushes _) holds
  | observed reply looks =>
    have silent : call.elements? = none := by
      rcases looks with rfl | rfl | rfl <;> rfl
    have hands : handedOut call (.returned (.ok reply)) = [] := by
      rcases looks with rfl | rfl | rfl <;> rfl
    exact Recorded.unchanged crowded accounts (by simp [pushSteps, silent]) hands holds
  | divided asks =>
    subst asks
    exact Recorded.unchanged crowded accounts rfl rfl holds
  | ended stops =>
    subst stops
    exact Recorded.unchanged crowded accounts rfl rfl holds.stopped
  | gaveUp blocking blocks =>
    exact Recorded.unchanged crowded accounts (by simp [pushSteps, blocking_pushes_nothing blocks])
      (blocking_nothing blocks) holds
  | slept blocking blocks =>
    have hands : handedOut call (.waits : Outcome (Answer T)) = [] := by
      cases call <;> rfl
    exact Recorded.unchanged crowded accounts (by simp [pushSteps, blocking_pushes_nothing blocks])
      hands holds
  | peeked delay looks => exact absurd looks (streams delay)
  | pushed elements b' pushes active ran | threw elements _ b' pushes active ran =>
    obtain ⟨_, _, queue', same, held, counted, fresh⟩ := storeAll_accounts roomy holds accounts elements
    rw [ran] at same
    cases same
    have steps : ∀ result, pushSteps ⟨thread, call, entry, b, result⟩ = storeSteps capacity b elements := by
      intro result
      simp [pushSteps, pushes, active, holds.capacity_eq]
    refine ⟨queue', held, ?_, ?_⟩
    · rw [entered_snoc, consumed_snoc, evicted_snoc, steps, push_hands_nothing pushes]
      simpa using counted
    · intro step member
      rw [List.flatMap_append, List.mem_append] at member
      rcases member with old | recent
      · exact crowded step old
      · exact fresh step (by simpa [steps] using recent)
  | took pops first rest inTime active available =>
    subst available
    have front : Accounts (entered log) (consumed log) (evicted log) ([first] ++ rest) := accounts
    refine ⟨rest, holds.afterTake _, ?_, ?_⟩
    · rw [entered_snoc, consumed_snoc, evicted_snoc]
      rcases pops with rfl | ⟨delay, rfl⟩ <;>
        simpa [pushSteps, Call.elements?, handedOut] using front.consume
    · rcases pops with rfl | ⟨delay, rfl⟩ <;> simpa [pushSteps, Call.elements?] using crowded
  | tookBatch outBuffer maxElements pops outBuffer' b' inTime active available ran written =>
    obtain ⟨held, -⟩ := holds.afterBatch available ran
    rw [← List.take_append_drop maxElements queue] at accounts
    refine ⟨queue.drop maxElements, held, ?_, ?_⟩
    · rw [entered_snoc, consumed_snoc, evicted_snoc]
      rcases pops with rfl | ⟨delay, rfl⟩ <;>
        simpa [pushSteps, Call.elements?, handedOut, written] using accounts.consume
    · rcases pops with rfl | ⟨delay, rfl⟩ <;> simpa [pushSteps, Call.elements?] using crowded

theorem exec_recorded {c : Nat} (positive : 1 ≤ c) (representable : c < sizeModulus)
    {reserved : Reserved ((c + 1) % sizeModulus)} {actions : List (Action (Call T))}
    {final : State (CircularBuffer T) (Call T)} {log : List (Executed T)}
    (streams : ∀ action ∈ actions, action.Makes Streams)
    (ran : Monitor.exec program (start (construct c reserved)) actions = some (final, log)) :
    Recorded ((c + 1) % sizeModulus) reserved.capacity final.shared log := by
  have roomy : (c + 1) % sizeModulus ≠ 1 := by
    rcases Nat.lt_or_eq_of_le representable with below | round
    · rw [Nat.mod_eq_of_lt below]
      omega
    · simp [← round]
  have initial : Recorded ((c + 1) % sizeModulus) reserved.capacity
      (construct c reserved : CircularBuffer T) [] :=
    ⟨[], construct_holds c reserved, Accounts.empty, by simp⟩
  exact Monitor.exec_history (Recorded ((c + 1) % sizeModulus) reserved.capacity)
    (fun thread _ _ _ _ allowed _ recorded => critical_recorded roomy allowed recorded thread)
    streams initial ran

end Pirks.CircularBuffer
