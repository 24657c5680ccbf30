import Pirks.Foundation.BoundedFifo
import Pirks.Foundation.CircularCells
import Pirks.Common.CircularBuffer

set_option autoImplicit false

namespace Pirks.CircularBuffer

open CircularCells

variable {T : Type}

def unread (b : CircularBuffer T) : List T :=
  contents b.buffer.elements b.buffer.capacity b.startIndex
    (distance b.buffer.capacity b.startIndex b.endIndex)

/-- The representation invariant. Indices wrap at capacity() while accesses are checked against
size(), so a vector with room to spare must never have wrapped. -/
structure Holds (size capacity : Nat) (b : CircularBuffer T) (queue : List T) : Prop where
  size_eq : b.buffer.size = size
  capacity_eq : b.buffer.capacity = capacity
  start_lt : b.startIndex < max 1 capacity
  length_lt : queue.length < max 1 capacity
  end_eq : b.endIndex = (b.startIndex + queue.length) % capacity
  window : Window b.buffer.elements capacity b.startIndex queue
  unwrapped : size < capacity → b.startIndex + queue.length ≤ size

variable {size capacity : Nat} {b : CircularBuffer T} {queue : List T}

theorem construct_holds [Element T] (c : Nat) (reserved : Reserved ((c + 1) % sizeModulus)) :
    Holds ((c + 1) % sizeModulus) reserved.capacity (construct c reserved : CircularBuffer T) [] where
  size_eq := by simp [construct, StdVector.size]
  capacity_eq := rfl
  start_lt := Nat.lt_of_lt_of_le Nat.zero_lt_one (Nat.le_max_left _ _)
  length_lt := Nat.lt_of_lt_of_le Nat.zero_lt_one (Nat.le_max_left _ _)
  end_eq := by simp [construct]
  window := Window.nil _ _ _
  unwrapped := by simp [construct]

theorem Holds.size_le (holds : Holds size capacity b queue) : size ≤ capacity := by
  have enough := b.buffer.enough
  rw [← holds.size_eq, ← holds.capacity_eq]
  exact enough

theorem Holds.representable (holds : Holds size capacity b queue) : capacity < sizeModulus := by
  rw [← holds.capacity_eq]
  exact b.buffer.representable

theorem Holds.distance_eq (holds : Holds size capacity b queue) :
    distance capacity b.startIndex b.endIndex = queue.length := by
  have inside := holds.start_lt
  have bounded := holds.length_lt
  rw [holds.end_eq]
  rcases Nat.eq_zero_or_pos capacity with rfl | positive
  · have first : b.startIndex = 0 := by omega
    have none : queue.length = 0 := by omega
    simp [distance, first, none]
  · exact distance_wrap (by omega) (by omega)

theorem Holds.unread_eq (holds : Holds size capacity b queue) : unread b = queue := by
  unfold unread
  rw [holds.capacity_eq, holds.distance_eq]
  exact holds.window.contents_eq

theorem Holds.empty_iff (holds : Holds size capacity b queue) :
    b.startIndex = b.endIndex ↔ queue = [] := by
  have inside := holds.start_lt
  have bounded := holds.length_lt
  constructor
  · intro same
    rw [holds.end_eq] at same
    rcases Nat.eq_zero_or_pos capacity with rfl | positive
    · exact List.eq_nil_of_length_eq_zero (by omega)
    · have back : (b.startIndex + 0) % capacity = (b.startIndex + queue.length) % capacity := by
        rw [← same, Nat.add_zero, Nat.mod_eq_of_lt (by omega)]
      have zero := wrap_injective (by omega) positive (by omega) back
      exact List.eq_nil_of_length_eq_zero zero.symm
  · rintro rfl
    rw [holds.end_eq, List.length_nil, Nat.add_zero]
    rcases Nat.eq_zero_or_pos capacity with rfl | positive
    · exact (Nat.mod_zero _).symm
    · exact (Nat.mod_eq_of_lt (by omega)).symm

theorem Holds.indices_apart (holds : Holds size capacity b queue) (available : queue ≠ []) :
    b.startIndex ≠ b.endIndex := by
  intro same
  exact available (holds.empty_iff.mp same)

theorem Holds.end_lt (holds : Holds size capacity b queue) (positive : 0 < capacity) :
    b.endIndex < capacity := by
  rw [holds.end_eq]
  exact Nat.mod_lt _ positive

theorem Holds.unwrapped_end (holds : Holds size capacity b queue) (spare : size < capacity) :
    b.endIndex = b.startIndex + queue.length := by
  have low := holds.unwrapped spare
  rw [holds.end_eq, Nat.mod_eq_of_lt (by omega)]

-- index + 1 stays below 2 ^ 64 because an index stays below capacity().
theorem next_eq {sz index : Nat} (inside : index < sz) (representable : sz < sizeModulus) :
    next sz index = (index + 1) % sz := by
  unfold next
  rw [Nat.mod_eq_of_lt (by omega : index + 1 < sizeModulus)]

theorem Holds.next_start (holds : Holds size capacity b queue) (positive : 0 < capacity) :
    next capacity b.startIndex = (b.startIndex + 1) % capacity := by
  have inside := holds.start_lt
  exact next_eq (by omega) holds.representable

theorem Holds.next_end (holds : Holds size capacity b queue) (positive : 0 < capacity) :
    next capacity b.endIndex = (b.startIndex + (queue.length + 1)) % capacity := by
  rw [next_eq (holds.end_lt positive) holds.representable, holds.end_eq, wrap_snoc]

theorem Holds.unwrapped_next (holds : Holds size capacity b queue) (stored : b.endIndex < size)
    (spare : size < capacity) :
    next capacity b.endIndex = b.endIndex + 1 ∧ next capacity b.endIndex ≠ b.startIndex := by
  have ahead := holds.unwrapped_end spare
  have stepped : next capacity b.endIndex = b.endIndex + 1 := by
    rw [next_eq (by omega) holds.representable, Nat.mod_eq_of_lt (by omega)]
  rw [stepped]
  omega

theorem Holds.next_end_meets (holds : Holds size capacity b queue) (positive : 0 < capacity) :
    next capacity b.endIndex = b.startIndex ↔ queue.length + 1 = capacity := by
  have inside := holds.start_lt
  have bounded := holds.length_lt
  rw [holds.next_end positive]
  exact wrap_meets_start (by omega) (by omega)

theorem Holds.full_exact (holds : Holds size capacity b queue) (stored : b.endIndex < size)
    (full : queue.length + 1 = capacity) : size = capacity := by
  have room := holds.size_le
  by_contra distinct
  have spare : size < capacity := by omega
  have last := holds.unwrapped_end spare
  omega

def afterStore (b : CircularBuffer T) (value : T) : CircularBuffer T :=
  let endIndex := next b.buffer.capacity b.endIndex
  { b with
    buffer := b.buffer.set b.endIndex value
    endIndex := endIndex
    startIndex :=
      if endIndex = b.startIndex then next b.buffer.capacity b.startIndex else b.startIndex }

theorem set_size (vector : StdVector T) (index : Nat) (value : T) :
    (vector.set index value).size = vector.size := by
  simp [StdVector.set, StdVector.size]

theorem Holds.afterStore (holds : Holds size capacity b queue) (stored : b.endIndex < size)
    (value : T) :
    Holds size capacity (afterStore b value) ((queue ++ [value]).rtake (capacity - 1)) := by
  have room := holds.size_le
  have positive : 0 < capacity := by omega
  have inside := holds.start_lt
  have bounded := holds.length_lt
  have fits : (b.startIndex + queue.length) % capacity < b.buffer.elements.length := by
    rw [← holds.end_eq]
    exact Nat.lt_of_lt_of_eq stored holds.size_eq.symm
  have pushed := holds.window.push value (by omega) (by omega) fits
  rw [← holds.end_eq] at pushed
  have meets := holds.next_end_meets positive
  by_cases round : queue.length + 1 = capacity
  · -- Every other slot is taken: the oldest element is dropped.
    have dropped : (queue ++ [value]).rtake (capacity - 1) = (queue ++ [value]).tail := by
      simp [List.rtake, ← round]
    have shape : CircularBuffer.afterStore b value =
        { b with
          buffer := b.buffer.set b.endIndex value
          endIndex := next capacity b.endIndex
          startIndex := (b.startIndex + 1) % capacity } := by
      simp [CircularBuffer.afterStore, holds.capacity_eq, meets.mpr round, holds.next_start positive]
    rw [dropped, shape]
    refine
      { size_eq := by rw [set_size, holds.size_eq]
        capacity_eq := holds.capacity_eq
        start_lt := Nat.lt_of_lt_of_le (Nat.mod_lt _ positive) (Nat.le_max_right _ _)
        length_lt := by simp; omega
        end_eq := ?_
        window := pushed.tail
        unwrapped := fun spare => ?_ }
    · change next capacity b.endIndex = _
      rw [holds.next_end positive, wrap_advance]
      simp
    · have exact_ := holds.full_exact stored round
      omega
  · have kept : (queue ++ [value]).rtake (capacity - 1) = queue ++ [value] := by
      apply BoundedFifo.rtake_of_length_le
      rw [List.length_append, List.length_singleton]
      omega
    have shape : CircularBuffer.afterStore b value =
        { b with
          buffer := b.buffer.set b.endIndex value
          endIndex := next capacity b.endIndex } := by
      simp [CircularBuffer.afterStore, holds.capacity_eq, meets, round]
    rw [kept, shape]
    refine
      { size_eq := by rw [set_size, holds.size_eq]
        capacity_eq := holds.capacity_eq
        start_lt := inside
        length_lt := by simp; omega
        end_eq := by simp [holds.next_end positive]
        window := pushed
        unwrapped := fun spare => ?_ }
    have last := holds.unwrapped_end spare
    simp
    omega

theorem Holds.spoilEnd (holds : Holds size capacity b queue) (value : T) :
    Holds size capacity { b with buffer := b.buffer.set b.endIndex value } queue := by
  have inside := holds.start_lt
  have bounded := holds.length_lt
  refine
    { size_eq := by rw [set_size, holds.size_eq]
      capacity_eq := holds.capacity_eq
      start_lt := inside
      length_lt := bounded
      end_eq := holds.end_eq
      window := ?_
      unwrapped := holds.unwrapped }
  rcases Nat.eq_zero_or_pos capacity with rfl | positive
  · rw [List.eq_nil_of_length_eq_zero (by omega : queue.length = 0)]
    exact Window.nil _ _ _
  · change Window (b.buffer.elements.set b.endIndex value) _ _ _
    rw [holds.end_eq]
    exact holds.window.set_end value (by omega) (by omega)

theorem Holds.stopped (holds : Holds size capacity b queue) :
    Holds size capacity { b with active := false } queue where
  size_eq := holds.size_eq
  capacity_eq := holds.capacity_eq
  start_lt := holds.start_lt
  length_lt := holds.length_lt
  end_eq := holds.end_eq
  window := holds.window
  unwrapped := holds.unwrapped

def afterTake (b : CircularBuffer T) (garbage : T) : CircularBuffer T :=
  { b with
    buffer := b.buffer.set b.startIndex garbage
    startIndex := next b.buffer.capacity b.startIndex }

theorem Holds.nonempty_capacity {first : T} {rest : List T}
    (holds : Holds size capacity b (first :: rest)) : 1 < capacity ∧ b.startIndex < capacity := by
  have inside := holds.start_lt
  have bounded := holds.length_lt
  simp only [List.length_cons] at bounded
  omega

theorem Holds.front {first : T} {rest : List T} (holds : Holds size capacity b (first :: rest)) :
    b.buffer.elements[b.startIndex]? = some first :=
  holds.window.head holds.nonempty_capacity.2

theorem Holds.replaceFront {first : T} {rest : List T}
    (holds : Holds size capacity b (first :: rest)) (garbage : T) :
    Holds size capacity { b with buffer := b.buffer.set b.startIndex garbage } (garbage :: rest) := by
  obtain ⟨big, inside⟩ := holds.nonempty_capacity
  have bounded := holds.length_lt
  refine
    { size_eq := by rw [set_size, holds.size_eq]
      capacity_eq := holds.capacity_eq
      start_lt := holds.start_lt
      length_lt := bounded
      end_eq := holds.end_eq
      window := ?_
      unwrapped := holds.unwrapped }
  have stored : b.startIndex < b.buffer.elements.length := by
    by_contra outside
    have found := holds.front
    rw [List.getElem?_eq_none (by omega)] at found
    cases found
  intro offset within
  change (b.buffer.elements.set b.startIndex garbage)[(b.startIndex + offset) % capacity]? = _
  cases offset with
  | zero => simp [Nat.mod_eq_of_lt inside, List.getElem?_set_self stored]
  | succ offset =>
    have apart : b.startIndex ≠ (b.startIndex + (offset + 1)) % capacity := by
      intro same
      have back : (b.startIndex + 0) % capacity = (b.startIndex + (offset + 1)) % capacity := by
        rw [← same, Nat.add_zero, Nat.mod_eq_of_lt inside]
      simp only [List.length_cons] at within bounded
      have := wrap_injective inside (by omega) (by omega) back
      omega
    rw [List.getElem?_set_ne apart]
    exact holds.window (offset + 1) within

theorem Holds.afterTake {first : T} {rest : List T} (holds : Holds size capacity b (first :: rest))
    (garbage : T) : Holds size capacity (afterTake b garbage) rest := by
  obtain ⟨big, inside⟩ := holds.nonempty_capacity
  have bounded := holds.length_lt
  simp only [List.length_cons] at bounded
  have shape : CircularBuffer.afterTake b garbage =
      { b with
        buffer := b.buffer.set b.startIndex garbage
        startIndex := (b.startIndex + 1) % capacity } := by
    simp [CircularBuffer.afterTake, holds.capacity_eq, holds.next_start (by omega)]
  rw [shape]
  refine
    { size_eq := by rw [set_size, holds.size_eq]
      capacity_eq := holds.capacity_eq
      start_lt := Nat.lt_of_lt_of_le (Nat.mod_lt _ (by omega)) (Nat.le_max_right _ _)
      length_lt := by omega
      end_eq := ?_
      window := ?_
      unwrapped := fun spare => ?_ }
  · rw [wrap_advance]
    exact holds.end_eq
  · apply holds.window.tail.set_free
    intro offset within same
    rw [wrap_advance] at same
    have back : (b.startIndex + (offset + 1)) % capacity = (b.startIndex + 0) % capacity := by
      rw [same, Nat.add_zero, Nat.mod_eq_of_lt inside]
    simp only [List.tail_cons] at within
    have := wrap_injective inside (by omega) (by omega) back
    omega
  · have low := holds.unwrapped spare
    have room := holds.size_le
    simp only [List.length_cons] at low
    change (b.startIndex + 1) % capacity + rest.length ≤ size
    rw [Nat.mod_eq_of_lt (by omega)]
    omega

end Pirks.CircularBuffer
