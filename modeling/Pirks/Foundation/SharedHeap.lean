import Mathlib.Logic.Function.Basic
import Mathlib.Tactic.Common

set_option autoImplicit false

/-- Reference counted objects, named by the order in which they were made. -/
structure SharedHeap where
  uses : Nat → Nat
  fresh : Nat
  destroyed : List Nat

namespace SharedHeap

abbrev Pointer := Option Nat

def empty : SharedHeap := ⟨fun _ => 0, 0, []⟩

def make (heap : SharedHeap) : SharedHeap :=
  { heap with uses := Function.update heap.uses heap.fresh 1, fresh := heap.fresh + 1 }

def copy (heap : SharedHeap) : Pointer → SharedHeap
  | none => heap
  | some id => { heap with uses := Function.update heap.uses id (heap.uses id + 1) }

def drop (heap : SharedHeap) : Pointer → SharedHeap
  | none => heap
  | some id =>
      { heap with
        uses := Function.update heap.uses id (heap.uses id - 1)
        destroyed := if heap.uses id = 1 then heap.destroyed ++ [id] else heap.destroyed }

@[simp]
theorem copy_fresh (heap : SharedHeap) (owner : Pointer) : (heap.copy owner).fresh = heap.fresh := by
  cases owner <;> rfl

@[simp]
theorem drop_fresh (heap : SharedHeap) (owner : Pointer) : (heap.drop owner).fresh = heap.fresh := by
  cases owner <;> rfl

-- weak_ptr::lock()
def lock (heap : SharedHeap) (weak : Pointer) : Pointer := weak.filter fun id => decide (0 < heap.uses id)

/-- The owners are all that keeps objects alive, and an object without one has been destroyed once. -/
structure Accounts (heap : SharedHeap) (owners : List Pointer) : Prop where
  counts : ∀ id, heap.uses id = owners.count (some id)
  known : ∀ id, heap.fresh ≤ id → heap.uses id = 0
  once : ∀ id, heap.destroyed.count id = if id < heap.fresh ∧ heap.uses id = 0 then 1 else 0

variable {heap : SharedHeap} {owners : List Pointer}

theorem empty_accounts (nobody : ∀ owner ∈ owners, owner = none) : Accounts empty owners where
  counts := fun id => by
    have none_ : owners.count (some id) = 0 := by
      rw [List.count_eq_zero]
      intro member
      cases nobody _ member
    rw [none_]
    rfl
  known := fun _ _ => rfl
  once := fun _ => by simp [empty]

theorem Accounts.perm {others : List Pointer} (accounts : Accounts heap owners) (same : owners.Perm others) :
    Accounts heap others where
  counts := fun id => by rw [accounts.counts id, same.count_eq]
  known := accounts.known
  once := accounts.once

theorem Accounts.make (accounts : Accounts heap owners) : Accounts heap.make (some heap.fresh :: owners) where
  counts := by
    intro id
    by_cases new : id = heap.fresh
    · have none_ := accounts.known id (Nat.le_of_eq new.symm)
      rw [accounts.counts id, new] at none_
      simp [SharedHeap.make, new, none_]
    · simp [SharedHeap.make, Function.update_of_ne new, accounts.counts id, Ne.symm new]
  known := by
    intro id later
    have past : heap.fresh + 1 ≤ id := later
    have other : id ≠ heap.fresh := by omega
    simpa [SharedHeap.make, Function.update_of_ne other] using accounts.known id (by omega)
  once := by
    intro id
    have before := accounts.once id
    by_cases new : id = heap.fresh
    · simpa [SharedHeap.make, new] using before
    · have same : id < heap.fresh + 1 ↔ id < heap.fresh := by omega
      simpa [SharedHeap.make, Function.update_of_ne new, same] using before

theorem Accounts.none (accounts : Accounts heap owners) : Accounts heap (none :: owners) :=
  ⟨fun id => by simpa using accounts.counts id, accounts.known, accounts.once⟩

theorem Accounts.copy {owner : Pointer} (accounts : Accounts heap owners) (held : owner ∈ owners) :
    Accounts (heap.copy owner) (owner :: owners) := by
  cases owner with
  | none => exact accounts.none
  | some id =>
    have positive : 0 < heap.uses id := by
      rw [accounts.counts id]
      exact List.count_pos_iff.mpr held
    have old : id < heap.fresh := by
      by_contra new
      have none_ := accounts.known id (by omega)
      omega
    refine ⟨fun other => ?_, fun other later => ?_, fun other => ?_⟩
    · by_cases same : other = id
      · simp [SharedHeap.copy, same, accounts.counts id]
      · simp [SharedHeap.copy, Function.update_of_ne same, accounts.counts other, Ne.symm same]
    · have past : heap.fresh ≤ other := later
      have apart : other ≠ id := by omega
      simpa [SharedHeap.copy, Function.update_of_ne apart] using accounts.known other past
    · have before := accounts.once other
      by_cases same : other = id
      · subst same
        have alive : heap.uses other ≠ 0 := by omega
        simpa [SharedHeap.copy, alive] using before
      · simpa [SharedHeap.copy, Function.update_of_ne same] using before

theorem Accounts.drop {owner : Pointer} (accounts : Accounts heap (owner :: owners)) :
    Accounts (heap.drop owner) owners := by
  cases owner with
  | none => exact ⟨fun id => by simpa [SharedHeap.drop] using accounts.counts id, accounts.known, accounts.once⟩
  | some id =>
    have counted : heap.uses id = owners.count (some id) + 1 := by simpa using accounts.counts id
    have old : id < heap.fresh := by
      by_contra new
      have none_ := accounts.known id (by omega)
      omega
    refine ⟨fun other => ?_, fun other later => ?_, fun other => ?_⟩
    · by_cases same : other = id
      · simp [SharedHeap.drop, same, counted]
      · have before := accounts.counts other
        simpa [SharedHeap.drop, Function.update_of_ne same, List.count_cons, Ne.symm same] using before
    · have past : heap.fresh ≤ other := later
      have apart : other ≠ id := by omega
      simpa [SharedHeap.drop, Function.update_of_ne apart] using accounts.known other past
    · have before := accounts.once other
      by_cases same : other = id
      · subst same
        have alive : heap.uses other ≠ 0 := by omega
        by_cases last : heap.uses other = 1
        · simp [SharedHeap.drop, last, old] at before ⊢
          exact before
        · have more : heap.uses other - 1 ≠ 0 := by omega
          simpa [SharedHeap.drop, last, alive, more] using before
      · have apart : (if heap.uses id = 1 then heap.destroyed ++ [id] else heap.destroyed).count other =
            heap.destroyed.count other := by
          split
          · simp [Ne.symm same]
          · rfl
        simpa [SharedHeap.drop, Function.update_of_ne same, apart] using before

-- ptr.reset(new T()): the new object is owned before the old one is let go.
def reset (heap : SharedHeap) (old : Pointer) : SharedHeap × Pointer := (heap.make.drop old, some heap.fresh)

theorem lock_eq (heap : SharedHeap) (id : Nat) :
    heap.lock (some id) = if 0 < heap.uses id then some id else none := by
  by_cases alive : 0 < heap.uses id <;> simp [lock, Option.filter, alive]

theorem Accounts.lt_fresh (accounts : Accounts heap owners) {id : Nat} (held : some id ∈ owners) :
    id < heap.fresh ∧ 0 < heap.uses id := by
  have positive : 0 < heap.uses id := by
    rw [accounts.counts id]
    exact List.count_pos_iff.mpr held
  refine ⟨?_, positive⟩
  by_contra new
  have none_ := accounts.known id (by omega)
  omega

theorem Accounts.reset {old : Pointer} (accounts : Accounts heap (old :: owners)) :
    Accounts (heap.reset old).1 ((heap.reset old).2 :: owners) :=
  (accounts.make.perm (List.Perm.swap _ _ _)).drop

end SharedHeap
