import Pirks.Foundation.Machine
import Pirks.Foundation.Slots
import Pirks.Audio.WasapiLifetime

set_option autoImplicit false

namespace Pirks.PlatformWindows

open Audio Slots

def S_FALSE : HRESULT := 1

def RPC_E_CHANGED_MODE : HRESULT := (0x80010106 : UInt32).toInt32

structure ComInitializer where
  shouldUninitialize_ : Bool
  deriving DecidableEq

namespace ComInitializer

-- The constructor, with the reply of CoInitializeEx(nullptr, COINIT_MULTITHREADED).
def construct (hr : HRESULT) : Except Audio.Exception ComInitializer :=
  if SUCCEEDED hr then .ok ⟨true⟩
  else if hr = S_FALSE ∨ hr = RPC_E_CHANGED_MODE then .ok ⟨false⟩
  else .error ⟨literal "Couldn't initialize COM. HRESULT = 0x", some hr.toInt⟩

structure Process where
  objects : List (Option (Nat × ComInitializer))
  initialized : Nat → Nat
  uninitialized : Nat → Nat

inductive Action where
  | construct (thread : Nat) (hr : HRESULT)
  | destroy (thread object : Nat)

structure Performed where
  action : Action
  before : Process
  after : Process

def increment (count : Nat → Nat) (thread : Nat) : Nat → Nat :=
  Function.update count thread (count thread + 1)

namespace Process

def start : Process := ⟨[], fun _ => 0, fun _ => 0⟩

-- Only a successful CoInitializeEx has to be balanced. An object whose constructor throws is never there.
def apply (process : Process) : Action → Option Process
  | .construct thread hr =>
      let initialized := if SUCCEEDED hr then increment process.initialized thread else process.initialized
      match ComInitializer.construct hr with
      | .ok object => some { process with objects := process.objects ++ [some (thread, object)], initialized }
      | .error _ => some { process with initialized }
  | .destroy thread object =>
      match slot process.objects object with
      | some (_, self) =>
          some { process with
            objects := process.objects.set object none
            uninitialized :=
              if self.shouldUninitialize_ then increment process.uninitialized thread else process.uninitialized }
      | none => none

def step (process : Process) (action : Action) : Option (Process × List Performed) :=
  (process.apply action).map fun after => (after, [⟨action, process, after⟩])

def Balanced (process : Process) : Prop :=
  ∀ thread, process.initialized thread = process.uninitialized thread + holders process.objects (thread, ⟨true⟩)

end Process

def Performed.AtHome (performed : Performed) : Prop :=
  ∀ thread object owner, performed.action = .destroy thread object →
    slot performed.before.objects object = some (owner, ⟨true⟩) → owner = thread

theorem increment_apply (count : Nat → Nat) (thread other : Nat) :
    increment count thread other = count other + if other = thread then 1 else 0 := by
  unfold increment
  by_cases same : other = thread
  · subst same
    simp
  · simp [same]

-- S_FALSE is a success, so the second test of the constructor can only meet RPC_E_CHANGED_MODE.
theorem construct_cases (hr : HRESULT) :
    SUCCEEDED hr = true ∧ construct hr = .ok ⟨true⟩ ∨
      SUCCEEDED hr = false ∧ hr = RPC_E_CHANGED_MODE ∧ construct hr = .ok ⟨false⟩ ∨
      SUCCEEDED hr = false ∧ hr ≠ RPC_E_CHANGED_MODE ∧ ∃ thrown, construct hr = .error thrown := by
  by_cases succeeded : SUCCEEDED hr = true
  next => exact .inl ⟨succeeded, if_pos succeeded⟩
  next =>
    have failed := (Bool.not_eq_true _).mp succeeded
    have real : hr ≠ S_FALSE := by
      rintro rfl
      exact absurd failed (by decide)
    by_cases changed : hr = RPC_E_CHANGED_MODE
    · exact .inr (.inl ⟨failed, changed, by simp [construct, changed, show SUCCEEDED RPC_E_CHANGED_MODE = false from rfl]⟩)
    · exact .inr (.inr ⟨failed, changed, _, by simp [construct, failed, real, changed]; rfl⟩)

variable {process after : Process} {action : Action}

theorem construct_balanced (balanced : process.Balanced) {thread : Nat} {hr : HRESULT}
    (applied : process.apply (.construct thread hr) = some after) : after.Balanced := by
  intro other
  have before := balanced other
  rcases construct_cases hr with ⟨succeeded, made⟩ | ⟨failed, -, made⟩ | ⟨failed, -, thrown, made⟩
  · simp only [Process.apply, succeeded, made, if_true, Option.some.injEq] at applied
    subst applied
    simp only [increment_apply, holders_snoc, Prod.mk.injEq, and_true, before]
    omega
  · simp only [Process.apply, failed, made, Bool.false_eq_true, if_false, Option.some.injEq] at applied
    subst applied
    simp only [holders_snoc, before]
    simp
  · simp only [Process.apply, failed, made, Bool.false_eq_true, if_false, Option.some.injEq] at applied
    subst applied
    exact before

theorem destroy_balanced_iff (balanced : process.Balanced) {thread object : Nat}
    (applied : process.apply (.destroy thread object) = some after) :
    after.Balanced ↔ Performed.AtHome ⟨.destroy thread object, process, after⟩ := by
  simp only [Process.apply] at applied
  split at applied
  next owner self found =>
    have removed (other : Nat) := holders_set (slot_found found) none (other, (⟨true⟩ : ComInitializer))
    simp only [reduceCtorEq, if_false, Nat.add_zero, Option.some.injEq, Prod.mk.injEq] at removed
    cases applied
    obtain ⟨_ | _⟩ := self
    next =>
      have kept : Process.Balanced ⟨process.objects.set object none, process.initialized, process.uninitialized⟩ := by
        intro other
        have before := balanced other
        have same := removed other
        simp only [ComInitializer.mk.injEq, Bool.false_eq_true, and_false, if_false, Nat.add_zero] at same
        simpa [same] using before
      refine ⟨fun _ => ?_, fun _ => kept⟩
      rintro _ _ another ⟨⟩ there
      cases found.symm.trans there
    next =>
      have counts (other : Nat) : process.initialized other =
          increment process.uninitialized thread other +
              holders (process.objects.set object none) (other, ⟨true⟩) ↔
            (owner = other ↔ thread = other) := by
        have before := balanced other
        have same := removed other
        rw [increment_apply, before]
        by_cases here : owner = other
        next =>
          rw [if_pos ⟨here, rfl⟩] at same
          by_cases there : other = thread
          · rw [if_pos there]
            exact iff_of_true (by omega) ⟨fun _ => there.symm, fun _ => here⟩
          · rw [if_neg there]
            exact iff_of_false (by omega) fun both => there (both.mp here).symm
        next =>
          rw [if_neg fun both => here both.1] at same
          by_cases there : other = thread
          · rw [if_pos there]
            exact iff_of_false (by omega) fun both => here (both.mpr there.symm)
          · rw [if_neg there]
            exact iff_of_true (by omega) ⟨fun home => absurd home here, fun home => absurd home.symm there⟩
      constructor
      · rintro after _ _ another ⟨⟩ there
        cases found.symm.trans there
        exact ((counts owner).mp (after owner)).mp rfl |>.symm
      · intro home other
        obtain rfl := home thread object owner rfl found
        exact (counts other).mpr Iff.rfl
  next => cases applied

theorem initializations_balanced_iff (actions : List Action) (final : Process) (log : List Performed)
    (ran : Machine.run Process.step .start actions = some (final, log)) :
    (∀ performed ∈ log, performed.after.Balanced) ↔ ∀ performed ∈ log, performed.AtHome := by
  refine Machine.run_good_iff Process.Balanced Performed.AtHome Performed.after ?_ ?_ ran
  · intro process action next new balanced taken
    obtain ⟨applied, rfl⟩ := Machine.recorded_taken taken
    refine ⟨_, rfl, rfl, ?_⟩
    cases action with
    | construct thread hr =>
      exact ⟨fun _ => by simp [Performed.AtHome], fun _ => construct_balanced balanced applied⟩
    | destroy thread object => exact destroy_balanced_iff balanced applied
  · intro thread
    rfl

def startup : List Action :=
  [.construct 0 S_OK, .construct 0 S_FALSE, .construct 1 RPC_E_CHANGED_MODE, .construct 2 (-1), .destroy 0 1,
    .destroy 0 2, .destroy 0 0]

theorem initializations_balanced_iff_startup :
    ∃ final log, Machine.run Process.step .start startup = some (final, log) ∧
      ((∀ performed ∈ log, performed.after.Balanced) ↔ ∀ performed ∈ log, performed.AtHome) :=
  ⟨_, _, rfl, initializations_balanced_iff startup _ _ rfl⟩

end ComInitializer

end Pirks.PlatformWindows
