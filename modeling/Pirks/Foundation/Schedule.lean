set_option autoImplicit false

structure Schedule {State Action : Type} (apply : State → Action → Option State) where
  state : Nat → State
  action : Nat → Action
  moves : ∀ time, apply (state time) (action time) = some (state (time + 1))

namespace Schedule

variable {State Action : Type} {apply : State → Action → Option State}

-- Never passed over for ever while it is able to act.
def Fair (schedule : Schedule apply) (Enabled : State → Prop) (Acts : Action → Prop) : Prop :=
  ∀ time, ∃ later, time ≤ later ∧ (Enabled (schedule.state later) → Acts (schedule.action later))

def Recurs (schedule : Schedule apply) (Acts : Action → Prop) : Prop :=
  ∀ time, ∃ later, time ≤ later ∧ Acts (schedule.action later)

def LeadsTo (schedule : Schedule apply) (P Q : State → Prop) : Prop :=
  ∀ time, P (schedule.state time) → ∃ later, time ≤ later ∧ Q (schedule.state later)

def count (schedule : Schedule apply) (counts : Action → Bool) : Nat → Nat
  | 0 => 0
  | time + 1 => schedule.count counts time + (if counts (schedule.action time) then 1 else 0)

variable {schedule : Schedule apply} {P Q R : State → Prop} {Acts : Action → Prop}

theorem Recurs.fair (recurs : schedule.Recurs Acts) (Enabled : State → Prop) : schedule.Fair Enabled Acts := by
  intro time
  obtain ⟨later, ordered, acts⟩ := recurs time
  exact ⟨later, ordered, fun _ => acts⟩

theorem leadsTo_of_imp (implies : ∀ state, P state → Q state) : schedule.LeadsTo P Q :=
  fun time holds => ⟨time, Nat.le_refl time, implies _ holds⟩

theorem LeadsTo.trans (first : schedule.LeadsTo P Q) (second : schedule.LeadsTo Q R) :
    schedule.LeadsTo P R := by
  intro time holds
  obtain ⟨middle, started, between⟩ := first time holds
  obtain ⟨later, continued, reached⟩ := second middle between
  exact ⟨later, Nat.le_trans started continued, reached⟩

theorem invariant {Inv : State → Prop} (initial : Inv (schedule.state 0))
    (kept : ∀ state action next, Inv state → apply state action = some next → Inv next) (time : Nat) :
    Inv (schedule.state time) := by
  induction time with
  | zero => exact initial
  | succ time ih => exact kept _ _ _ ih (schedule.moves time)

theorem stays_until {time later : Nat} (ordered : time ≤ later)
    (kept : ∀ state action next, P state → apply state action = some next → P next ∨ Q next)
    (holds : P (schedule.state time)) :
    P (schedule.state later) ∨ ∃ reached, time ≤ reached ∧ Q (schedule.state reached) := by
  induction ordered with
  | refl => exact .inl holds
  | @step later ordered ih =>
    rcases ih with still | found
    · rcases kept _ _ _ still (schedule.moves later) with next | arrived
      · exact .inl next
      · exact .inr ⟨later + 1, Nat.le_succ_of_le ordered, arrived⟩
    · exact .inr found

theorem holds_until {P Q : Nat → Prop} {time later : Nat} (ordered : time ≤ later)
    (kept : ∀ now, time ≤ now → P now → P (now + 1) ∨ Q now) (holds : P time) :
    P later ∨ ∃ reached, time ≤ reached ∧ Q reached := by
  induction ordered with
  | refl => exact .inl holds
  | @step later ordered ih =>
    rcases ih with still | found
    · rcases kept later ordered still with next | ended
      · exact .inl next
      · exact .inr ⟨later, ordered, ended⟩
    · exact .inr found

theorem Fair.leadsTo {Enabled : State → Prop} (fair : schedule.Fair Enabled Acts)
    (enabled : ∀ state, P state → Enabled state)
    (kept : ∀ state action next, P state → apply state action = some next → P next ∨ Q next)
    (ended : ∀ state action next, P state → Acts action → apply state action = some next → Q next) :
    schedule.LeadsTo P Q := by
  intro time holds
  obtain ⟨later, ordered, acts⟩ := fair time
  rcases stays_until ordered kept holds with still | found
  · have reached := ended _ _ _ still (acts (enabled _ still)) (schedule.moves later)
    exact ⟨later + 1, Nat.le_succ_of_le ordered, reached⟩
  · exact found

theorem count_other {counts : Action → Bool} {time : Nat} (other : counts (schedule.action time) = false) :
    schedule.count counts (time + 1) = schedule.count counts time := by
  rw [count, other, if_neg Bool.false_ne_true]
  rfl

theorem count_counted {counts : Action → Bool} {time : Nat} (counted : counts (schedule.action time) = true) :
    schedule.count counts (time + 1) = schedule.count counts time + 1 := by
  rw [count, if_pos counted]

theorem count_mono (counts : Action → Bool) {time later : Nat} (ordered : time ≤ later) :
    schedule.count counts time ≤ schedule.count counts later := by
  induction ordered with
  | refl => exact Nat.le_refl _
  | step _ ih => exact Nat.le_trans ih (Nat.le_add_right _ _)

theorem Recurs.count_unbounded {counts : Action → Bool}
    (recurs : schedule.Recurs fun action => counts action = true) (amount : Nat) :
    ∃ time, amount ≤ schedule.count counts time := by
  induction amount with
  | zero => exact ⟨0, Nat.zero_le _⟩
  | succ amount ih =>
    obtain ⟨time, reached⟩ := ih
    obtain ⟨later, ordered, counted⟩ := recurs time
    have grown : schedule.count counts time ≤ schedule.count counts later := count_mono counts ordered
    refine ⟨later + 1, ?_⟩
    rw [count_counted counted]
    omega

section

variable {period : Nat} {states : Nat → State} {actions : Nat → Action}

def cycle (positive : 0 < period)
    (turns : ∀ place, place < period →
      apply (states place) (actions place) = some (states ((place + 1) % period))) : Schedule apply where
  state := fun time => states (time % period)
  action := fun time => actions (time % period)
  moves := by
    intro time
    have turned := turns (time % period) (Nat.mod_lt time positive)
    rwa [Nat.mod_add_mod] at turned

theorem cycle_recurs (positive : 0 < period)
    (turns : ∀ place, place < period →
      apply (states place) (actions place) = some (states ((place + 1) % period)))
    {place : Nat} (within : place < period) (acts : Acts (actions place)) :
    (cycle positive turns).Recurs Acts := by
  intro time
  refine ⟨time * period + place, ?_, ?_⟩
  · have longer := Nat.le_mul_of_pos_right time positive
    omega
  · change Acts (actions ((time * period + place) % period))
    rwa [Nat.mul_add_mod_self_right, Nat.mod_eq_of_lt within]

end

end Schedule
