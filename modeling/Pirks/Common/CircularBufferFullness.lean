import Pirks.Common.CircularBufferThreads

set_option autoImplicit false

namespace Pirks.CircularBuffer

open CircularCells Execution

variable {T : Type} {size capacity : Nat} {b : CircularBuffer T} {queue : List T}

def Overwrites (b : CircularBuffer T) : Prop :=
  ∀ value, ∃ oldest rest after, unread b = oldest :: rest ∧
    perform (push (.copies value)) ⟨b, false⟩ = (.ok (), after) ∧
      unread after.buffer = rest ++ [value]

/-- isFull() answers, and says true exactly of a buffer that holds the `c` elements it was made for. -/
def TellsFull (c : Nat) (b : CircularBuffer T) : Prop :=
  ∃ full, perform isFull ⟨b, false⟩ = (.ok full, ⟨b, false⟩) ∧
    (full = true ↔ (unread b).length = c) ∧ (full = true ↔ Overwrites b)

-- startIndex_ + 1 is the slot after the oldest element, so endIndex_ is there when that one is alone.
theorem Holds.end_next_start (holds : Holds size capacity b queue) (wide : 2 ≤ capacity) :
    b.endIndex = next capacity b.startIndex ↔ queue.length = 1 := by
  have inside := holds.start_lt
  have bounded := holds.length_lt
  rw [holds.end_eq, holds.next_start (by omega)]
  constructor
  · intro same
    exact wrap_injective (by omega) (by omega) (by omega) same
  · intro alone
    rw [alone]

theorem perform_push_copies (holds : Holds size capacity b queue) (active : b.active = true)
    (stored : b.endIndex < size) (value : T) :
    perform (push (.copies value)) ⟨b, false⟩ = (.ok (), ⟨afterStore b value, true⟩) := by
  have here : Holds size capacity (Locked.mk b false).buffer queue := holds
  simp [push, perform_bind, active, holds.capacity_eq, perform_store_copies here stored value, Locked.put]

theorem perform_push_outOfRange (holds : Holds size capacity b queue) (active : b.active = true)
    (outside : size ≤ b.endIndex) (element : Source T) :
    perform (push element) ⟨b, false⟩ = (.error (.outOfRange b.endIndex), ⟨b, false⟩) := by
  have here : Holds size capacity (Locked.mk b false).buffer queue := holds
  simp [push, perform_bind, active, holds.capacity_eq, perform_store_outOfRange here outside element]

theorem Holds.unread_push (holds : Holds size capacity b queue) (active : b.active = true)
    (stored : b.endIndex < size) {value : T} {after : Locked T}
    (ran : perform (push (.copies value)) ⟨b, false⟩ = (.ok (), after)) :
    unread after.buffer = (queue ++ [value]).rtake (capacity - 1) := by
  rw [perform_push_copies holds active stored] at ran
  cases ran
  exact (holds.afterStore stored value).unread_eq

theorem Holds.nothing_fits (holds : Holds size capacity b queue) (none_ : size = 0) : queue = [] := by
  rcases queue with _ | ⟨first, rest⟩
  · rfl
  · have found := holds.front
    have empty : b.buffer.elements = [] := List.eq_nil_of_length_eq_zero (holds.size_eq.trans none_)
    simp [empty] at found

theorem Holds.narrow_tells (holds : Holds size capacity b queue) (active : b.active = true)
    (narrow : capacity ≤ 1) {c : Nat} (tells : TellsFull c b) : c = 0 := by
  obtain ⟨full, ran, counts, -⟩ := tells
  have bounded := holds.length_lt
  have empty : queue.length = 0 := by omega
  rcases Nat.eq_zero_or_pos capacity with rfl | positive
  · rw [perform_isFull_zero holds active] at ran
    cases ran
  · obtain rfl : capacity = 1 := by omega
    rw [perform_isFull holds active positive] at ran
    have together : b.endIndex = next 1 b.startIndex := by
      rw [holds.end_eq, next, Nat.mod_one, Nat.mod_one]
    simp only [together, decide_true, Prod.mk.injEq, Except.ok.injEq, and_true] at ran
    rw [holds.unread_eq] at counts
    exact (counts.mp ran.symm).symm.trans empty

section Fullness

variable [Element T]

theorem Holds.overwrites_iff (holds : Holds size capacity b queue) (active : b.active = true) :
    Overwrites b ↔ queue ≠ [] ∧ size = capacity ∧ queue.length + 1 = capacity := by
  constructor
  · intro overwrites
    obtain ⟨oldest, rest, after, front, ran, kept⟩ := overwrites Element.initial
    rw [holds.unread_eq] at front
    by_cases stored : b.endIndex < size
    · have pushed := holds.unread_push active stored ran
      have full : queue.length + 1 = capacity := by
        have bounded := holds.length_lt
        have lengths := congrArg List.length (kept.symm.trans pushed)
        simp only [front, List.rtake, List.length_append, List.length_cons, List.length_nil,
          List.length_drop] at lengths bounded ⊢
        omega
      exact ⟨by simp [front], holds.full_exact stored full, full⟩
    · rw [perform_push_outOfRange holds active (by omega)] at ran
      cases ran
  · rintro ⟨nonempty, rfl, full⟩ value
    obtain ⟨oldest, rest, rfl⟩ := List.exists_cons_of_ne_nil nonempty
    have stored : b.endIndex < size := holds.end_lt (by omega)
    have ran := perform_push_copies holds active stored value
    refine ⟨oldest, rest, _, holds.unread_eq, ran, ?_⟩
    rw [holds.unread_push active stored ran]
    simp [List.rtake, ← full]

-- isFull() compares endIndex_ with startIndex_ + 1: it recognises one element, not a full buffer.
theorem Holds.tells_iff (holds : Holds size capacity b queue) (active : b.active = true)
    (wide : 2 ≤ capacity) (c : Nat) :
    TellsFull c b ↔ (queue.length = 1 ↔ queue.length = c) ∧
      (queue.length = 1 ↔ queue ≠ [] ∧ size = capacity ∧ queue.length + 1 = capacity) := by
  unfold TellsFull
  rw [perform_isFull holds active (by omega), holds.unread_eq, holds.overwrites_iff active,
    ← holds.end_next_start wide]
  simp

theorem tellsFull_iff (c : Nat) (positive : 1 ≤ c) (representable : c < sizeModulus)
    (reserved : Reserved ((c + 1) % sizeModulus)) (actions : List (Monitor.Action (Call T)))
    (final : Monitor.State (CircularBuffer T) (Call T))
    (log : List (Monitor.Section (CircularBuffer T) (Call T) (Answer T)))
    (ran : Monitor.exec program (Monitor.start (construct c reserved)) actions = some (final, log))
    (active : final.shared.active = true) :
    TellsFull c final.shared ↔
      2 ≤ reserved.capacity ∧
      ((unread final.shared).length = 1 ↔ (unread final.shared).length = c) ∧
      ((unread final.shared).length = 1 → reserved.capacity = c + 1) := by
  obtain ⟨queue, holds⟩ := exec_holds ran
  rw [holds.unread_eq]
  have room := holds.size_le
  have some_ : queue ≠ [] ↔ 0 < queue.length := List.length_pos_iff.symm
  rcases Nat.lt_or_eq_of_le representable with below | round
  · have exact_ : (c + 1) % sizeModulus = c + 1 := Nat.mod_eq_of_lt below
    rw [holds.tells_iff active (by omega), some_]
    omega
  · have none_ : (c + 1) % sizeModulus = 0 := by simp [← round]
    have empty := holds.nothing_fits none_
    by_cases wide : 2 ≤ reserved.capacity
    · rw [holds.tells_iff active wide, empty]
      simp [wide]
    · constructor
      · intro tells
        have zero := holds.narrow_tells active (by omega) tells
        omega
      · intro condition
        exact absurd condition.1 wide

theorem tellsFull_iff_two_of_three :
    ∃ final log,
      Monitor.exec program (Monitor.start (construct 3 ⟨4, by decide, by decide⟩ : CircularBuffer Nat))
        [.enter 0 (.pushSpan [.copies 5, .copies 6, .copies 7]), .enter 1 .pop] = some (final, log) ∧
      (TellsFull 3 final.shared ↔
        2 ≤ 4 ∧ ((unread final.shared).length = 1 ↔ (unread final.shared).length = 3) ∧
        ((unread final.shared).length = 1 → 4 = 3 + 1)) :=
  ⟨_, _, rfl, tellsFull_iff 3 (by decide) (by decide) ⟨4, by decide, by decide⟩
    [.enter 0 (.pushSpan [.copies 5, .copies 6, .copies 7]), .enter 1 .pop] _ _ rfl rfl⟩

theorem tellsFull_fails_with_one_element :
    ¬∀ (c : Nat) (reserved : Reserved ((c + 1) % sizeModulus)) (actions : List (Monitor.Action (Call Nat)))
        (final : Monitor.State (CircularBuffer Nat) (Call Nat))
        (log : List (Monitor.Section (CircularBuffer Nat) (Call Nat) (Answer Nat))),
      1 ≤ c → c < sizeModulus →
      Monitor.exec program (Monitor.start (construct c reserved)) actions = some (final, log) →
      final.shared.active = true → TellsFull c final.shared := by
  intro always
  obtain ⟨full, ran, counts, -⟩ := always 2 ⟨3, by decide, by decide⟩ [.enter 0 (.push (.copies 7))] _ _
    (by decide) (by decide) rfl rfl
  cases ran
  exact absurd (counts.mp (by decide)) (by decide)

end Fullness

end Pirks.CircularBuffer
