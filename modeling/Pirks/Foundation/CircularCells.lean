import Mathlib.Data.List.DropRight
import Mathlib.Tactic.Common

set_option autoImplicit false

namespace CircularCells

variable {A : Type}

def distance (modulus start finish : Nat) : Nat := (finish + modulus - start) % modulus

/-- The values found in `count` cells from `start` on; a position outside the array has none. -/
def contents (cells : List A) (modulus start count : Nat) : List A :=
  (List.range count).filterMap fun offset => cells[(start + offset) % modulus]?

def Window (cells : List A) (modulus start : Nat) (queue : List A) : Prop :=
  ∀ offset (within : offset < queue.length),
    cells[(start + offset) % modulus]? = some queue[offset]

theorem wrap_cases {modulus start offset : Nat} (inside : start < modulus) (bounded : offset < modulus) :
    (start + offset) % modulus =
      if start + offset < modulus then start + offset else start + offset - modulus := by
  split
  next small => exact Nat.mod_eq_of_lt small
  next large =>
    have wraps : modulus ≤ start + offset := by omega
    have rest : start + offset - modulus < modulus := by omega
    rw [Nat.mod_eq_sub_mod wraps, Nat.mod_eq_of_lt rest]

theorem wrap_injective {modulus start left right : Nat} (inside : start < modulus)
    (leftBound : left < modulus) (rightBound : right < modulus)
    (same : (start + left) % modulus = (start + right) % modulus) : left = right := by
  rw [wrap_cases inside leftBound, wrap_cases inside rightBound] at same
  split_ifs at same <;> omega

theorem wrap_advance (modulus start offset : Nat) :
    ((start + 1) % modulus + offset) % modulus = (start + (offset + 1)) % modulus := by
  rw [Nat.mod_add_mod]
  congr 1
  omega

theorem wrap_snoc (modulus start offset : Nat) :
    ((start + offset) % modulus + 1) % modulus = (start + (offset + 1)) % modulus := by
  rw [Nat.mod_add_mod, Nat.add_assoc]

theorem wrap_meets_start {modulus start offset : Nat} (inside : start < modulus)
    (bounded : offset < modulus) :
    (start + (offset + 1)) % modulus = start ↔ offset + 1 = modulus := by
  constructor
  · intro met
    by_contra short
    have back : (start + (offset + 1)) % modulus = (start + 0) % modulus := by
      rw [met, Nat.add_zero, Nat.mod_eq_of_lt inside]
    have zero := wrap_injective inside (by omega) (by omega) back
    omega
  · intro round
    rw [round, Nat.add_mod_right, Nat.mod_eq_of_lt inside]

theorem distance_wrap {modulus start offset : Nat} (inside : start < modulus)
    (bounded : offset < modulus) :
    distance modulus start ((start + offset) % modulus) = offset := by
  unfold distance
  rw [wrap_cases inside bounded]
  split
  next small =>
    have shifted : start + offset + modulus - start = offset + modulus := by omega
    rw [shifted, Nat.add_mod_right, Nat.mod_eq_of_lt bounded]
  next large =>
    have shifted : start + offset - modulus + modulus - start = offset := by omega
    rw [shifted, Nat.mod_eq_of_lt bounded]

theorem Window.nil (cells : List A) (modulus start : Nat) : Window cells modulus start [] := by
  intro offset within
  exact absurd within (Nat.not_lt_zero _)

theorem Window.head {cells : List A} {modulus start : Nat} {first : A} {rest : List A}
    (window : Window cells modulus start (first :: rest)) (inside : start < modulus) :
    cells[start]? = some first := by
  have found := window 0 (by simp)
  simpa [Nat.mod_eq_of_lt inside] using found

theorem Window.tail {cells : List A} {modulus start : Nat} {queue : List A}
    (window : Window cells modulus start queue) :
    Window cells modulus ((start + 1) % modulus) queue.tail := by
  intro offset within
  have longer : offset + 1 < queue.length := by
    rw [List.length_tail] at within
    omega
  rw [wrap_advance, window (offset + 1) longer, List.getElem_tail]

theorem Window.set_free {cells : List A} {modulus start index : Nat} {queue : List A}
    (window : Window cells modulus start queue) (value : A)
    (free : ∀ offset < queue.length, (start + offset) % modulus ≠ index) :
    Window (cells.set index value) modulus start queue := by
  intro offset within
  rw [List.getElem?_set_ne (free offset within).symm]
  exact window offset within

theorem Window.set_end {cells : List A} {modulus start : Nat} {queue : List A}
    (window : Window cells modulus start queue) (value : A) (inside : start < modulus)
    (bounded : queue.length < modulus) :
    Window (cells.set ((start + queue.length) % modulus) value) modulus start queue := by
  apply window.set_free
  intro offset within same
  have := wrap_injective inside (by omega) bounded same
  omega

theorem Window.snoc {cells : List A} {modulus start : Nat} {queue : List A} {value : A}
    (window : Window cells modulus start queue)
    (found : cells[(start + queue.length) % modulus]? = some value) :
    Window cells modulus start (queue ++ [value]) := by
  intro offset within
  by_cases old : offset < queue.length
  · rw [List.getElem_append_left old]
    exact window offset old
  · have last : offset = queue.length := by
      simp at within
      omega
    subst last
    simpa using found

theorem Window.push {cells : List A} {modulus start : Nat} {queue : List A}
    (window : Window cells modulus start queue) (value : A) (inside : start < modulus)
    (bounded : queue.length < modulus) (stored : (start + queue.length) % modulus < cells.length) :
    Window (cells.set ((start + queue.length) % modulus) value) modulus start (queue ++ [value]) :=
  (window.set_end value inside bounded).snoc (List.getElem?_set_self stored)

theorem Window.contents_eq {cells : List A} {modulus start : Nat} {queue : List A}
    (window : Window cells modulus start queue) :
    contents cells modulus start queue.length = queue := by
  have prefixed (count : Nat) (within : count ≤ queue.length) :
      contents cells modulus start count = queue.take count := by
    induction count with
    | zero => simp [contents]
    | succ count ih =>
      have found := window count within
      have earlier := ih (by omega)
      unfold contents at earlier ⊢
      rw [List.range_succ, List.filterMap_append, earlier, List.take_add_one]
      simp [found, List.getElem?_eq_getElem within]
  rw [prefixed queue.length le_rfl, List.take_length]

end CircularCells
