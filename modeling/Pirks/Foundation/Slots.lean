import Mathlib.Tactic.Common

set_option autoImplicit false

namespace Slots

-- A table that grows at its end; a slot that was cleared stays empty.

section Lookup

variable {A : Type} {slots : List (Option A)} {i : Nat} {a : A}

def slot (slots : List (Option A)) (index : Nat) : Option A := slots[index]?.join

theorem slot_found (found : slot slots i = some a) : slots[i]? = some (some a) := by
  unfold slot at found
  cases here : slots[i]? <;> simp_all

theorem slot_lt (found : slot slots i = some a) : i < slots.length :=
  (List.getElem?_eq_some_iff.mp (slot_found found)).1

theorem found_set (found : slot slots i = some a) (new : Option A) : (slots.set i new)[i]? = some new :=
  List.getElem?_set_self (slot_lt found)

theorem slot_snoc (slots : List (Option A)) (a : A) (index : Nat) :
    slot (slots ++ [some a]) index = if index = slots.length then some a else slot slots index := by
  unfold slot
  rcases Nat.lt_trichotomy index slots.length with inside | last | outside
  · simp [Nat.ne_of_lt inside, List.getElem?_append_left inside]
  · simp [last]
  · have past : (slots ++ [some a]).length ≤ index := by
      rw [List.length_append]
      exact outside
    simp [Nat.ne_of_gt outside, List.getElem?_eq_none past, List.getElem?_eq_none (Nat.le_of_lt outside)]

theorem slot_set (found : slot slots i = some a) (new : Option A) (index : Nat) :
    slot (slots.set i new) index = if index = i then new else slot slots index := by
  have inside := slot_lt found
  unfold slot
  by_cases same : index = i
  · simp [same, List.getElem?_set_self inside]
  · simp [same, List.getElem?_set_ne (Ne.symm same)]

end Lookup

variable {A : Type} [DecidableEq A] {slots : List (Option A)} {i j : Nat} {old : Option A} {a b : A}

def holders (slots : List (Option A)) (a : A) : Nat := slots.count (some a)

theorem holders_snoc (slots : List (Option A)) (a b : A) :
    holders (slots ++ [some a]) b = holders slots b + if b = a then 1 else 0 := by
  by_cases same : b = a
  · simp [holders, same]
  · simp [holders, same, Ne.symm same]

-- Stated as a sum, so that omega can follow a chain of replacements.
theorem holders_set (found : slots[i]? = some old) (new : Option A) (b : A) :
    holders (slots.set i new) b + (if old = some b then 1 else 0) =
      holders slots b + if new = some b then 1 else 0 := by
  obtain ⟨inside, rfl⟩ := List.getElem?_eq_some_iff.mp found
  have present : slots[i] = some b → 0 < slots.count (some b) := by
    intro same
    rw [← same]
    exact List.count_pos_iff.mpr (List.getElem_mem inside)
  unfold holders
  rw [List.count_set inside]
  by_cases same : slots[i] = some b
  · have positive := present same
    simp only [same, beq_self_eq_true, if_true, beq_iff_eq]
    omega
  · simp [same]

theorem holders_swap {first second : Option A} (left : slots[i]? = some first)
    (right : slots[j]? = some second) (b : A) :
    holders ((slots.set i second).set j first) b = holders slots b := by
  have replaced := holders_set left second b
  by_cases same : i = j
  · subst same
    have equal : first = second := Option.some.inj (left.symm.trans right)
    subst equal
    rw [List.set_set]
    omega
  · have still : (slots.set i second)[j]? = some second := by
      rw [List.getElem?_set_ne same]
      exact right
    have returned := holders_set still first b
    omega

theorem holders_pos (found : slots[i]? = some (some a)) : 0 < holders slots a :=
  List.count_pos_iff.mpr (List.mem_of_getElem? found)

theorem holders_unique (single : holders slots a ≤ 1) (first : slots[i]? = some (some a))
    (second : slots[j]? = some (some a)) : i = j := by
  by_contra distinct
  have removed := holders_set first none a
  have left : (slots.set i none)[j]? = some (some a) := by
    rw [List.getElem?_set_ne distinct]
    exact second
  have still := holders_pos left
  simp at removed
  omega

theorem holders_none (cleared : ∀ slot ∈ slots, slot = none) (a : A) : holders slots a = 0 := by
  apply List.count_eq_zero.mpr
  intro member
  cases cleared _ member

end Slots
