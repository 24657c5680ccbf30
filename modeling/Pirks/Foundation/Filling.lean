set_option autoImplicit false

namespace Filling

def level (capacity initial : Nat) (sizes : Nat → Nat) : Nat → Nat
  | 0 => initial
  | n + 1 =>
      if level capacity initial sizes n + sizes n ≤ capacity then level capacity initial sizes n + sizes n
      else level capacity initial sizes n

variable {capacity initial needed : Nat} {sizes : Nat → Nat}

theorem level_mono {n m : Nat} (ordered : n ≤ m) :
    level capacity initial sizes n ≤ level capacity initial sizes m := by
  induction ordered with
  | refl => exact Nat.le_refl _
  | step _ ih =>
    rw [level]
    split
    next => exact Nat.le_trans ih (Nat.le_add_right _ _)
    next => exact ih

theorem level_stuck {n m : Nat} (ordered : n ≤ m)
    (full : ∀ k, n ≤ k → capacity < level capacity initial sizes n + sizes k) :
    level capacity initial sizes m = level capacity initial sizes n := by
  induction ordered with
  | refl => rfl
  | @step m ordered ih =>
    have beyond := full m ordered
    rw [level, ih, if_neg (Nat.not_le_of_lt beyond)]

theorem level_reaches_iff (positive : ∀ n, 0 < sizes n) :
    (∃ n, needed ≤ level capacity initial sizes n) ↔
      ∀ n, level capacity initial sizes n < needed →
        ∃ m, n ≤ m ∧ level capacity initial sizes n + sizes m ≤ capacity := by
  constructor
  · intro ⟨reached, enough⟩ n missing
    have later : n ≤ reached := by
      apply Nat.le_of_not_lt
      intro earlier
      have grown : level capacity initial sizes reached ≤ level capacity initial sizes n :=
        level_mono (Nat.le_of_lt earlier)
      omega
    apply Classical.byContradiction
    intro none
    have stuck : level capacity initial sizes reached = level capacity initial sizes n :=
      level_stuck later fun m ordered => Nat.lt_of_not_le fun fits => none ⟨m, ordered, fits⟩
    omega
  · intro fits
    -- While it is not reached, the level exceeds any amount.
    have climbs : ∀ amount, ∃ n, needed ≤ level capacity initial sizes n ∨
        amount ≤ level capacity initial sizes n := by
      intro amount
      induction amount with
      | zero => exact ⟨0, .inr (Nat.zero_le _)⟩
      | succ amount ih =>
        obtain ⟨n, reached⟩ := ih
        by_cases enough : needed ≤ level capacity initial sizes n
        · exact ⟨n, .inl enough⟩
        · obtain ⟨m, ordered, room⟩ := fits n (Nat.lt_of_not_le enough)
          have grown : level capacity initial sizes n ≤ level capacity initial sizes m := level_mono ordered
          have larger := positive m
          refine ⟨m + 1, .inr ?_⟩
          rw [level]
          split <;> omega
    obtain ⟨n, reached⟩ := climbs needed
    exact ⟨n, reached.elim id id⟩

theorem small_reaches (positive : ∀ n, 0 < sizes n) (small : ∀ n, needed + sizes n ≤ capacity + 1) :
    ∃ n, needed ≤ level capacity initial sizes n := by
  rw [level_reaches_iff positive]
  intro n missing
  have fits := small n
  exact ⟨n, Nat.le_refl n, by omega⟩

theorem equal_level {size n : Nat} (fits : initial + n * size ≤ capacity) :
    level capacity initial (fun _ => size) n = initial + n * size := by
  induction n with
  | zero => rw [level, Nat.zero_mul, Nat.add_zero]
  | succ n ih =>
    rw [Nat.succ_mul] at fits ⊢
    have stored := ih (by omega)
    rw [level, stored, if_pos (by omega), Nat.add_assoc]

theorem equal_level_multiple (capacity initial size n : Nat) :
    ∃ m, level capacity initial (fun _ => size) n = initial + m * size ∧
      (initial + m * size ≤ capacity ∨ m = 0) := by
  induction n with
  | zero => exact ⟨0, by rw [level, Nat.zero_mul, Nat.add_zero], .inr rfl⟩
  | succ n ih =>
    obtain ⟨m, multiple, within⟩ := ih
    rw [level, multiple]
    split
    next fits =>
      refine ⟨m + 1, ?_, .inl ?_⟩
      all_goals
        rw [Nat.succ_mul]
        omega
    next => exact ⟨m, rfl, within⟩

theorem equal_reaches_iff {size : Nat} :
    (∃ n, needed ≤ level capacity initial (fun _ => size) n) ↔
      needed ≤ initial ∨ ∃ n, needed ≤ initial + n * size ∧ initial + n * size ≤ capacity := by
  constructor
  · intro ⟨n, enough⟩
    obtain ⟨m, multiple, within⟩ := equal_level_multiple capacity initial size n
    rw [multiple] at enough
    rcases within with fits | none
    · exact .inr ⟨m, enough, fits⟩
    · subst none
      exact .inl (by omega)
  · rintro (already | ⟨n, enough, fits⟩)
    · exact ⟨0, already⟩
    · exact ⟨n, by rwa [equal_level fits]⟩

end Filling
