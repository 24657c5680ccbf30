import Mathlib.Data.List.DropRight
import Mathlib.Tactic.Common

set_option autoImplicit false

namespace BoundedFifo

variable {A : Type}

theorem length_rtake_le (items : List A) (count : Nat) : (items.rtake count).length ≤ count := by
  simp only [List.rtake, List.length_drop]
  omega

theorem rtake_of_length_le {items : List A} {count : Nat} (short : items.length ≤ count) :
    items.rtake count = items := by
  have nothing : items.length - count = 0 := by omega
  rw [List.rtake, nothing, List.drop_zero]

theorem rtake_append_rtake (items more : List A) (count : Nat) :
    (items.rtake count ++ more).rtake count = (items ++ more).rtake count := by
  simp only [List.rtake, List.length_append, List.length_drop, List.drop_append, List.drop_drop]
  congr 2 <;> omega

structure Fifo (A : Type) (bound : Nat) where
  queue : List A
  bounded : queue.length ≤ bound

variable {bound : Nat}

def Fifo.empty (A : Type) (bound : Nat) : Fifo A bound := ⟨[], Nat.zero_le _⟩

def Fifo.offerAll (fifo : Fifo A bound) (items : List A) : Fifo A bound :=
  ⟨(fifo.queue ++ items).rtake bound, length_rtake_le _ _⟩

def Fifo.offer (fifo : Fifo A bound) (item : A) : Fifo A bound := fifo.offerAll [item]

def Fifo.drop (fifo : Fifo A bound) (count : Nat) : Fifo A bound where
  queue := fifo.queue.drop count
  bounded := by
    have bounded := fifo.bounded
    rw [List.length_drop]
    omega

inductive Fate where
  | consumed
  | evicted
  | stored
  deriving DecidableEq

def withFate (fate : Fate) (history : List (A × Fate)) : List A :=
  (history.filter fun item => item.2 = fate).map Prod.fst

def survivors (history : List (A × Fate)) : List A :=
  (history.filter fun item => item.2 ≠ .evicted).map Prod.fst

/-- `removed` lists the items in the order in which they left at the front. -/
def Accounts (entered consumed evicted stored : List A) : Prop :=
  ∃ removed : List (A × Fate), (∀ item ∈ removed, item.2 ≠ .stored) ∧
    entered = removed.map Prod.fst ++ stored ∧
    withFate .consumed removed = consumed ∧ withFate .evicted removed = evicted

variable {entered consumed evicted stored : List A}

theorem Accounts.empty : Accounts ([] : List A) [] [] [] :=
  ⟨[], by simp, rfl, rfl, rfl⟩

theorem Accounts.enter (accounts : Accounts entered consumed evicted stored) (items : List A) :
    Accounts (entered ++ items) consumed evicted (stored ++ items) := by
  obtain ⟨removed, gone, same, taken, dropped⟩ := accounts
  exact ⟨removed, gone, by rw [same, List.append_assoc], taken, dropped⟩

theorem Accounts.consume {items : List A} (accounts : Accounts entered consumed evicted (items ++ stored)) :
    Accounts entered (consumed ++ items) evicted stored := by
  obtain ⟨removed, gone, same, taken, dropped⟩ := accounts
  refine ⟨removed ++ items.map fun item => (item, .consumed), ?_, ?_, ?_, ?_⟩
  · intro item member
    rcases List.mem_append.mp member with old | recent
    · exact gone item old
    · obtain ⟨_, _, rfl⟩ := List.mem_map.mp recent
      simp
  · simp [same, Function.comp_def]
  · rw [← taken]
    simp [withFate, List.filter_map, Function.comp_def]
  · rw [← dropped]
    simp [withFate, List.filter_map, Function.comp_def]

theorem Accounts.evict {item : A} (accounts : Accounts entered consumed evicted (item :: stored)) :
    Accounts entered consumed (evicted ++ [item]) stored := by
  obtain ⟨removed, gone, same, taken, dropped⟩ := accounts
  refine ⟨removed ++ [(item, .evicted)], ?_, ?_, ?_, ?_⟩
  · intro other member
    rcases List.mem_append.mp member with old | recent
    · exact gone other old
    · rw [List.mem_singleton.mp recent]
      simp
  · simp [same]
  · rw [← taken]
    simp [withFate]
  · rw [← dropped]
    simp [withFate]

theorem length_eq_fates (history : List (A × Fate)) :
    history.length = (withFate .consumed history).length + (withFate .evicted history).length +
      (withFate .stored history).length := by
  induction history with
  | nil => rfl
  | cons item history ih =>
    simp only [withFate, List.length_map] at ih
    obtain ⟨value, fate⟩ := item
    cases fate <;> simp [withFate, ih] <;> omega

theorem Accounts.history (accounts : Accounts entered consumed evicted stored) :
    ∃ history : List (A × Fate), history.map Prod.fst = entered ∧
      withFate .consumed history = consumed ∧ withFate .evicted history = evicted ∧
      withFate .stored history = stored ∧ survivors history = consumed ++ stored := by
  obtain ⟨removed, gone, same, taken, dropped⟩ := accounts
  have kept : survivors removed = withFate .consumed removed := by
    unfold survivors withFate
    congr 1
    apply List.filter_congr
    intro item member
    have left := gone item member
    cases fate : item.2 <;> simp_all
  have away : withFate .stored removed = [] := by
    unfold withFate
    rw [List.filter_eq_nil_iff.mpr (by simpa using gone)]
    rfl
  refine ⟨removed ++ stored.map fun item => (item, .stored), ?_, ?_, ?_, ?_, ?_⟩
  · simp [same, Function.comp_def]
  · rw [← taken]
    simp [withFate, List.filter_map, Function.comp_def]
  · rw [← dropped]
    simp [withFate, List.filter_map, Function.comp_def]
  · unfold withFate at away ⊢
    rw [List.filter_append, List.map_append, away]
    simp [List.filter_map, Function.comp_def]
  · rw [← taken, ← kept]
    simp [survivors, List.filter_map, Function.comp_def]

theorem Accounts.lossless (accounts : Accounts entered consumed [] stored) :
    consumed ++ stored = entered := by
  obtain ⟨removed, gone, same, taken, dropped⟩ := accounts
  have all : removed.filter (fun item => item.2 = .consumed) = removed := by
    apply List.filter_eq_self.mpr
    intro item member
    have left := gone item member
    have kept : ¬item.2 = .evicted := by
      intro lost
      have found : item.1 ∈ withFate .evicted removed :=
        List.mem_map.mpr ⟨item, List.mem_filter.mpr ⟨member, by simpa using lost⟩, rfl⟩
      rw [dropped] at found
      cases found
    cases fate : item.2 <;> simp_all
  rw [same, ← taken, withFate, all]

end BoundedFifo
