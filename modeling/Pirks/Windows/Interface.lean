import Pirks.Foundation.Machine
import Pirks.Foundation.Slots

set_option autoImplicit false

namespace Pirks.PlatformWindows

open Slots

-- COM objects are told apart by a number; a null pointer_ is none.
structure Interface where
  pointer : Option Nat
  deriving DecidableEq

-- The references obtained for an object, the calls of Release on it, and the wrappers by the order
-- of their construction.
structure Apartment where
  obtained : Nat → Nat
  released : Nat → Nat
  wrappers : List (Option Interface)

-- The special members of Interface<T>. The destructor is user-declared, so that the class has no
-- move operations and the implicit copies, which copy pointer_, stand in for them.
inductive Operation where
  -- A pointer that the system hands out carries one reference.
  | construct (object : Option Nat)
  | copyConstruct (source : Nat)
  | copyAssign (target source : Nat)
  | destroy (target : Nat)

namespace Apartment

def empty : Apartment := ⟨fun _ => 0, fun _ => 0, []⟩

def wrapper (apartment : Apartment) (index : Nat) : Option Interface := slot apartment.wrappers index

def count (apartment : Apartment) (object : Nat) : Int :=
  apartment.obtained object - apartment.released object

def tick (counts : Nat → Nat) (pointer : Option Nat) (object : Nat) : Nat :=
  if pointer = some object then counts object + 1 else counts object

def apply (apartment : Apartment) : Operation → Option Apartment
  | .construct object =>
      some { apartment with
        obtained := tick apartment.obtained object
        wrappers := apartment.wrappers ++ [some ⟨object⟩] }
  | .copyConstruct source =>
      match apartment.wrapper source with
      | some other => some { apartment with wrappers := apartment.wrappers ++ [some other] }
      | none => none
  | .copyAssign target source =>
      match apartment.wrapper target, apartment.wrapper source with
      | some _, some other =>
          some { apartment with wrappers := apartment.wrappers.set target (some other) }
      | _, _ => none
  | .destroy target =>
      match apartment.wrapper target with
      | some self =>
          some { apartment with
            released := tick apartment.released self.pointer
            wrappers := apartment.wrappers.set target none }
      | none => none

end Apartment

structure Performed where
  operation : Operation
  before : Apartment
  after : Apartment

def Apartment.step (apartment : Apartment) (operation : Operation) :
    Option (Apartment × List Performed) :=
  (apartment.apply operation).map fun after => (after, [⟨operation, apartment, after⟩])

-- device_ = getDefaultDevice() and audioCapture_ = audio_capture: a temporary, the next wrapper to be
-- constructed, takes over the raw pointer, is copied into the member and destroyed.
def assignTemporary (target temporary object : Nat) : List Operation :=
  [.construct (some object), .copyAssign target temporary, .destroy temporary]

-- A local wrapper that is returned by value, unless the copy is elided.
def returnByValue (source : Nat) : List Operation := [.copyConstruct source, .destroy source]

/-- No reference is given up twice, and live wrappers point to objects that are still referenced. -/
def Sound (apartment : Apartment) : Prop :=
  ∀ object, 0 ≤ apartment.count object ∧
    ∀ index, apartment.wrapper index = some ⟨some object⟩ → 1 ≤ apartment.count object

/-- A destroyed wrapper is the last one on its object, or leaves a reference for the others. -/
def Performed.Spares (performed : Performed) : Prop :=
  ∀ target object, performed.operation = .destroy target →
    performed.before.wrapper target = some ⟨some object⟩ →
    2 ≤ performed.before.count object ∨
      ∀ other, performed.before.wrapper other = some ⟨some object⟩ → other = target

variable {apartment after : Apartment} {operation : Operation}

theorem sound_empty : Sound Apartment.empty := by
  intro object
  simp [Apartment.empty, Apartment.count, Apartment.wrapper, slot]

theorem destroy_dangles {target other object : Nat} (applied : apartment.apply (.destroy target) = some after)
    (found : apartment.wrapper target = some ⟨some object⟩)
    (copy : apartment.wrapper other = some ⟨some object⟩) (distinct : other ≠ target)
    (last : apartment.count object ≤ 1) : ¬Sound after := by
  simp only [Apartment.apply, found] at applied
  cases applied
  intro sound
  have still : slot (apartment.wrappers.set target none) other = some ⟨some object⟩ := by
    rw [slot_set found, if_neg distinct]
    exact copy
  have live := (sound object).2 other still
  simp only [Apartment.count, Apartment.tick, if_true] at live last
  omega

theorem construct_sound (sound : Sound apartment) {pointer : Option Nat}
    (applied : apartment.apply (.construct pointer) = some after) : Sound after := by
  cases applied
  intro object
  have low := (sound object).1
  simp only [Apartment.count, Apartment.wrapper, Apartment.tick] at low ⊢
  refine ⟨by split <;> omega, fun index here => ?_⟩
  rw [slot_snoc] at here
  split at here
  next =>
    cases here
    simp only [if_true]
    omega
  next =>
    have live := (sound object).2 index here
    simp only [Apartment.count] at live
    split <;> omega

theorem destroy_spares (sound : Sound apartment) {target : Nat}
    (applied : apartment.apply (.destroy target) = some after)
    (spares : Performed.Spares ⟨.destroy target, apartment, after⟩) : Sound after := by
  simp only [Apartment.apply] at applied
  split at applied
  next self found =>
    cases applied
    intro object
    have low := (sound object).1
    by_cases held : self.pointer = some object
    · have self_ : apartment.wrapper target = some ⟨some object⟩ := by rw [found, ← held]
      have one := (sound object).2 target self_
      simp only [Apartment.count, Apartment.tick, held, if_true, Apartment.wrapper] at one ⊢
      refine ⟨by omega, fun index here => ?_⟩
      rw [slot_set found] at here
      split at here
      next => cases here
      next distinct =>
        rcases spares target object rfl self_ with more | last
        · simp only [Apartment.count] at more
          omega
        · exact absurd (last index here) distinct
    · simp only [Apartment.count, Apartment.tick, held, if_false, Apartment.wrapper] at low ⊢
      refine ⟨low, fun index here => ?_⟩
      rw [slot_set found] at here
      split at here
      next => cases here
      next => exact (sound object).2 index here
  next => cases applied

theorem sound_iff_spares (sound : Sound apartment) (applied : apartment.apply operation = some after) :
    Sound after ↔ Performed.Spares ⟨operation, apartment, after⟩ := by
  cases operation with
  | construct pointer => exact iff_of_true (construct_sound sound applied) (fun _ _ same => by cases same)
  | copyConstruct source =>
    simp only [Apartment.apply] at applied
    split at applied
    next self found =>
      cases applied
      refine iff_of_true (fun object => ?_) (fun _ _ same => by cases same)
      refine ⟨(sound object).1, fun index here => ?_⟩
      simp only [Apartment.wrapper, slot_snoc] at here
      split at here
      next =>
        cases here
        exact (sound object).2 source found
      next => exact (sound object).2 index here
    next => cases applied
  | copyAssign target source =>
    simp only [Apartment.apply] at applied
    split at applied
    next self other first second =>
      cases applied
      refine iff_of_true (fun object => ?_) (fun _ _ same => by cases same)
      refine ⟨(sound object).1, fun index here => ?_⟩
      simp only [Apartment.wrapper, slot_set first] at here
      split at here
      next =>
        cases here
        exact (sound object).2 source second
      next => exact (sound object).2 index here
    next => cases applied
  | destroy target =>
    constructor
    · intro safe _ object same here
      cases same
      by_cases more : 2 ≤ apartment.count object
      · exact .inl more
      · right
        intro other live
        by_contra distinct
        exact destroy_dangles applied here live distinct (by omega) safe
    · exact destroy_spares sound applied

theorem apply_of_step {new : List Performed} (taken : apartment.step operation = some (after, new)) :
    apartment.apply operation = some after :=
  (Machine.recorded_taken taken).1

theorem assignTemporary_dangles {target object : Nat} {member : Interface} {log : List Performed}
    (live : apartment.wrapper target = some member) (fresh : apartment.count object ≤ 0)
    (ran : Machine.run Apartment.step apartment (assignTemporary target apartment.wrappers.length object) =
      some (after, log)) : ¬Sound after := by
  have inside : target < apartment.wrappers.length := slot_lt live
  obtain ⟨constructed, _, _, taken, rest, -⟩ := Machine.run_cons.mp ran
  obtain ⟨assigned, _, _, copied, last, -⟩ := Machine.run_cons.mp rest
  obtain ⟨destroyed, _, _, ended, none_, -⟩ := Machine.run_cons.mp last
  cases none_
  cases apply_of_step taken
  have temporary : slot (apartment.wrappers ++ [some ⟨some object⟩]) apartment.wrappers.length =
      some (⟨some object⟩ : Interface) := by
    rw [slot_snoc, if_pos rfl]
  have here : slot (apartment.wrappers ++ [some ⟨some object⟩]) target = some member := by
    rw [slot_snoc, if_neg (Nat.ne_of_lt inside)]
    exact live
  have copied := apply_of_step copied
  simp only [Apartment.apply, Apartment.wrapper, temporary, here] at copied
  cases copied
  have held : slot ((apartment.wrappers ++ [some (Interface.mk (some object))]).set target (some (Interface.mk (some object))))
      apartment.wrappers.length = some (⟨some object⟩ : Interface) := by
    rw [slot_set here, if_neg (Nat.ne_of_gt inside)]
    exact temporary
  have copy : slot ((apartment.wrappers ++ [some (Interface.mk (some object))]).set target (some (Interface.mk (some object))))
      target = some (⟨some object⟩ : Interface) := by
    rw [slot_set here, if_pos rfl]
  apply destroy_dangles (apply_of_step ended) held copy (Nat.ne_of_lt inside)
  simp only [Apartment.count, Apartment.tick, if_true] at fresh ⊢
  omega

theorem returnByValue_dangles {source object : Nat} {log : List Performed}
    (live : apartment.wrapper source = some ⟨some object⟩) (last : apartment.count object ≤ 1)
    (ran : Machine.run Apartment.step apartment (returnByValue source) = some (after, log)) : ¬Sound after := by
  have inside : source < apartment.wrappers.length := slot_lt live
  obtain ⟨copied, _, _, taken, rest, -⟩ := Machine.run_cons.mp ran
  obtain ⟨destroyed, _, _, ended, none_, -⟩ := Machine.run_cons.mp rest
  cases none_
  have taken := apply_of_step taken
  simp only [Apartment.apply, live] at taken
  cases taken
  have held : slot (apartment.wrappers ++ [some ⟨some object⟩]) source =
      some (⟨some object⟩ : Interface) := by
    rw [slot_snoc, if_neg (Nat.ne_of_lt inside)]
    exact live
  have copy : slot (apartment.wrappers ++ [some ⟨some object⟩]) apartment.wrappers.length =
      some (⟨some object⟩ : Interface) := by
    rw [slot_snoc, if_pos rfl]
  exact destroy_dangles (apply_of_step ended) held copy (Nat.ne_of_gt inside) last

theorem step_sound_iff (sound : Sound apartment) {new : List Performed}
    (taken : apartment.step operation = some (after, new)) :
    ∃ performed : Performed, new = [performed] ∧ performed.after = after ∧
      (Sound after ↔ performed.Spares) := by
  obtain ⟨applied, rfl⟩ := Machine.recorded_taken taken
  exact ⟨⟨operation, apartment, after⟩, rfl, rfl, sound_iff_spares sound applied⟩

theorem interface_sound_iff (operations : List Operation) (final : Apartment) (log : List Performed)
    (ran : Machine.run Apartment.step Apartment.empty operations = some (final, log)) :
    (∀ performed ∈ log, Sound performed.after) ↔ ∀ performed ∈ log, performed.Spares :=
  Machine.run_good_iff Sound Performed.Spares Performed.after
    (fun _ _ _ _ sound taken => step_sound_iff sound taken) sound_empty ran

def shared : List Operation := [.construct (some 1), .construct (some 1), .copyConstruct 0, .destroy 2]

theorem interface_sound_iff_shared :
    ∃ final log, Machine.run Apartment.step Apartment.empty shared = some (final, log) ∧
      ∀ performed ∈ log, Sound performed.after := by
  refine ⟨_, _, rfl, (interface_sound_iff shared _ _ rfl).mpr ?_⟩
  simp only [List.cons_append, List.nil_append, List.forall_mem_cons, List.not_mem_nil, false_implies,
    implies_true, and_true]
  refine ⟨?_, ?_, ?_, ?_⟩
  case refine_4 =>
    intro target object same held
    cases same
    cases held
    exact .inl (by decide)
  all_goals
    intro target object same
    cases same

-- device_ = deviceEnumerator_.getDefaultDevice() in the constructor of the input.
theorem interface_unsound_for_device :
    ¬∀ (operations : List Operation) (final : Apartment) (log : List Performed),
      Machine.run Apartment.step Apartment.empty operations = some (final, log) →
      ∀ performed ∈ log, Sound performed.after := by
  intro always
  have sound := always (.construct none :: assignTemporary 0 1 7) _ _ rfl _
    (.tail _ (.tail _ (.tail _ (.head _))))
  have live := (sound 7).2 0 rfl
  exact absurd live (by decide)

end Pirks.PlatformWindows
