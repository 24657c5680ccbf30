import Pirks.Foundation.Custody
import Pirks.Foundation.Machine
import Pirks.Foundation.Slots

set_option autoImplicit false

namespace Pirks.PlatformWindows

open Custody Slots

-- The template arguments: the invalid value, and the handles that closer_type closes when it is
-- called on a handle.
structure HandleTraits (Handle : Type) where
  invalid : Handle
  closer : Handle → List Handle
  closer_self : ∀ handle, closer handle = [] ∨ closer handle = [handle]
  closer_invalid : closer invalid = []

structure UniqueHandle (Handle : Type) where
  handle : Handle
  deriving DecidableEq

namespace UniqueHandle

variable {Handle : Type} (traits : HandleTraits Handle)

def default : UniqueHandle Handle := ⟨traits.invalid⟩

def release (self : UniqueHandle Handle) : Handle × UniqueHandle Handle := (self.handle, default traits)

@[simp]
theorem release_handle (self : UniqueHandle Handle) : (self.release traits).1 = self.handle := rfl

variable [DecidableEq Handle]

-- operator bool
def valid (self : UniqueHandle Handle) : Bool := decide (self.handle ≠ traits.invalid)

def reset (self : UniqueHandle Handle) (newHandle : Handle) : List Handle × UniqueHandle Handle :=
  (if self.valid traits then traits.closer self.handle else [], ⟨newHandle⟩)

@[simp]
theorem reset_wrapper (self : UniqueHandle Handle) (newHandle : Handle) :
    (self.reset traits newHandle).2 = ⟨newHandle⟩ := rfl

theorem reset_calls (self : UniqueHandle Handle) (newHandle : Handle) :
    (self.reset traits newHandle).1 = traits.closer self.handle := by
  by_cases same : self.handle = traits.invalid <;> simp [reset, valid, same, traits.closer_invalid]

-- reset(other.release()) for two different objects
def moveAssign (self other : UniqueHandle Handle) :
    List Handle × UniqueHandle Handle × UniqueHandle Handle :=
  let (newHandle, other') := other.release traits
  let (calls, self') := self.reset traits newHandle
  (calls, self', other')

def destroy (self : UniqueHandle Handle) : List Handle := (self.reset traits traits.invalid).1

end UniqueHandle

def Real {Handle : Type} (traits : HandleTraits Handle) (handle : Handle) : Prop :=
  traits.closer handle = [handle]

theorem default_not_real {Handle : Type} (traits : HandleTraits Handle) :
    ¬Real traits (UniqueHandle.default traits).handle := by
  simp [Real, UniqueHandle.default, traits.closer_invalid]

theorem default_apart {Handle : Type} {traits : HandleTraits Handle} {handle : Handle}
    (real : Real traits handle) : some (UniqueHandle.default traits) ≠ some (UniqueHandle.mk handle) := by
  rintro ⟨⟩
  simp [Real, traits.closer_invalid] at real

theorem empty_apart {Handle : Type} {traits : HandleTraits Handle} {self : UniqueHandle Handle}
    {handle : Handle} (empty : ¬Real traits self.handle) (real : Real traits handle) :
    some self ≠ some (UniqueHandle.mk handle) := by
  rintro ⟨⟩
  exact empty real

structure World (Handle : Type) where
  isOpen : Handle → Bool
  wrappers : List (Option (UniqueHandle Handle))

inductive Action (Handle : Type) where
  | construct
  | constructRaw (handle : Handle)
  | moveConstruct (other : Nat)
  | moveAssign (target other : Nat)
  | swap (target other : Nat)
  | release (target : Nat)
  -- none stands for the default argument
  | reset (target : Nat) (newHandle : Option Handle)
  | destroy (target : Nat)
  -- The system opens handles, possibly under a value that was in use before, and the rest of the
  -- program closes handles that no wrapper owns.
  | opened (handle : Handle)
  | closedElsewhere (handle : Handle)

namespace World

variable {Handle : Type} [DecidableEq Handle]

def owners (world : World Handle) (handle : Handle) : Nat := holders world.wrappers ⟨handle⟩

def closeAll (isOpen : Handle → Bool) : List Handle → (Handle → Bool) × List (Event Handle)
  | [] => (isOpen, [])
  | handle :: handles =>
      let (final, later) := closeAll (Function.update isOpen handle false) handles
      (final, .disposed handle (isOpen handle) :: later)

def accepts (traits : HandleTraits Handle) (world : World Handle) (handle : Handle) : Bool :=
  traits.closer handle = [] || (world.isOpen handle && world.owners handle = 0)

def wrapper (world : World Handle) (index : Nat) : Option (UniqueHandle Handle) :=
  slot world.wrappers index

def step (traits : HandleTraits Handle) (world : World Handle) :
    Action Handle → Option (World Handle × List (Event Handle))
  | .construct =>
      some ({ world with wrappers := world.wrappers ++ [some (.default traits)] }, [])
  | .constructRaw handle =>
      if world.accepts traits handle then
        some ({ world with wrappers := world.wrappers ++ [some ⟨handle⟩] }, [.took handle])
      else none
  | .moveConstruct other =>
      match world.wrapper other with
      | some source =>
          let (handle, source') := source.release traits
          some ({ world with wrappers := world.wrappers.set other (some source') ++ [some ⟨handle⟩] }, [])
      | none => none
  | .moveAssign target other =>
      match world.wrapper target, world.wrapper other with
      | some self, some source =>
          -- this != &other
          if target ≠ other then
            let (calls, self', source') := self.moveAssign traits source
            let (isOpen, events) := closeAll world.isOpen calls
            some (⟨isOpen, (world.wrappers.set other (some source')).set target (some self')⟩, events)
          else some (world, [])
      | _, _ => none
  | .swap target other =>
      match world.wrapper target, world.wrapper other with
      | some self, some source =>
          some ({ world with
            wrappers := (world.wrappers.set target (some source)).set other (some self) }, [])
      | _, _ => none
  | .release target =>
      match world.wrapper target with
      | some self =>
          let (handle, self') := self.release traits
          some ({ world with wrappers := world.wrappers.set target (some self') }, [.gaveBack handle])
      | none => none
  | .reset target newHandle =>
      match world.wrapper target with
      | some self =>
          if newHandle.all (world.accepts traits) then
            let (calls, self') := self.reset traits (newHandle.getD traits.invalid)
            let (isOpen, events) := closeAll world.isOpen calls
            some (⟨isOpen, world.wrappers.set target (some self')⟩,
              events ++ newHandle.toList.map .took)
          else none
      | none => none
  | .destroy target =>
      match world.wrapper target with
      | some self =>
          let (isOpen, events) := closeAll world.isOpen (self.destroy traits)
          some (⟨isOpen, world.wrappers.set target none⟩, events)
      | none => none
  | .opened handle =>
      if world.isOpen handle then none
      else some ({ world with isOpen := Function.update world.isOpen handle true }, [])
  | .closedElsewhere handle =>
      if world.isOpen handle && world.owners handle = 0 then
        some ({ world with isOpen := Function.update world.isOpen handle false }, [])
      else none

variable {traits : HandleTraits Handle} {world world' : World Handle} {log new : List (Event Handle)}
  {isOpen : Handle → Bool} {wrappers wrappers' : List (Option (UniqueHandle Handle))} {i j : Nat}
  {self source : UniqueHandle Handle}

abbrev Owned (traits : HandleTraits Handle) (isOpen : Handle → Bool)
    (wrappers : List (Option (UniqueHandle Handle))) (log : List (Event Handle)) : Prop :=
  Ledger (Real traits) (fun handle => holders wrappers ⟨handle⟩) isOpen log

theorem vacated (found : wrappers[i]? = some (some self)) {slot : Option (UniqueHandle Handle)}
    {handle : Handle} (loose : slot ≠ some ⟨handle⟩) :
    holders (wrappers.set i slot) ⟨handle⟩ + (if handle = self.handle then 1 else 0) =
      holders wrappers ⟨handle⟩ := by
  have replaced := holders_set found slot ⟨handle⟩
  rw [if_neg loose] at replaced
  by_cases same : handle = self.handle
  · subst same
    simpa using replaced
  · have apart : some self ≠ some (UniqueHandle.mk handle) := by
      rintro ⟨⟩
      exact same rfl
    simpa [same, apart] using replaced

theorem Owned.vacate (owned : Owned traits isOpen wrappers log)
    (found : wrappers[i]? = some (some self)) (slot : Option (UniqueHandle Handle))
    (loose : ∀ handle, Real traits handle → slot ≠ some ⟨handle⟩) :
    Owned traits (closeAll isOpen (traits.closer self.handle)).1 (wrappers.set i slot)
      (log ++ (closeAll isOpen (traits.closer self.handle)).2) := by
  rcases traits.closer_self self.handle with silent | closes
  · rw [silent]
    simp only [closeAll, List.append_nil]
    apply owned.rearrange
    intro handle real
    have apart : handle ≠ self.handle := by
      rintro rfl
      simp [Real, silent] at real
    simpa [apart] using vacated found (loose handle real)
  · rw [closes]
    exact owned.dispose closes (holders_pos found) fun handle real => vacated found (loose handle real)

theorem fresh_of_accepts {handle : Handle} (accepted : world.accepts traits handle = true)
    (real : Real traits handle) :
    world.isOpen handle = true ∧ holders world.wrappers ⟨handle⟩ = 0 := by
  have some_ : decide (traits.closer handle = []) = false := by
    simp [show traits.closer handle = [handle] from real]
  rw [accepts, some_, Bool.false_or, Bool.and_eq_true] at accepted
  exact ⟨accepted.1, of_decide_eq_true accepted.2⟩

theorem fresh_after_vacate {handle : Handle} (found : wrappers[i]? = some (some self))
    (real : Real traits handle) (fresh : isOpen handle = true ∧ holders wrappers ⟨handle⟩ = 0) :
    (closeAll isOpen (traits.closer self.handle)).1 handle = true ∧
      holders (wrappers.set i (some (UniqueHandle.default traits))) ⟨handle⟩ = 0 := by
  have held := holders_pos found
  have apart : handle ≠ self.handle := by
    rintro rfl
    have none_ : holders wrappers self = 0 := fresh.2
    omega
  have emptied := holders_set found (some (UniqueHandle.default traits)) ⟨handle⟩
  rw [if_neg (default_apart real)] at emptied
  refine ⟨?_, by omega⟩
  rcases traits.closer_self self.handle with silent | closes
  · simpa [silent, closeAll] using fresh.1
  · simpa [closes, closeAll, apart] using fresh.1

theorem Owned.hold {handle : Handle} (owned : Owned traits isOpen wrappers log)
    (found : wrappers[i]? = some (some self)) (empty : ¬Real traits self.handle)
    (fresh : Real traits handle → isOpen handle = true ∧ holders wrappers ⟨handle⟩ = 0) :
    Owned traits isOpen (wrappers.set i (some ⟨handle⟩)) (log ++ [.took handle]) := by
  apply owned.take fresh
  intro other real
  have replaced := holders_set found (some (UniqueHandle.mk handle)) ⟨other⟩
  have apart := empty_apart empty real
  by_cases same : other = handle
  · subst same
    simpa [apart] using replaced
  · simpa [apart, same, Ne.symm same] using replaced

theorem Owned.transfer (owned : Owned traits isOpen wrappers log) (distinct : i ≠ j)
    (target : wrappers[i]? = some (some self)) (empty : ¬Real traits self.handle)
    (found : wrappers[j]? = some (some source)) :
    Owned traits isOpen ((wrappers.set j (some (.default traits))).set i (some source)) log := by
  apply owned.rearrange
  intro handle real
  have emptied := holders_set found (some (UniqueHandle.default traits)) ⟨handle⟩
  have still : (wrappers.set j (some (UniqueHandle.default traits)))[i]? = some (some self) := by
    rw [List.getElem?_set_ne (Ne.symm distinct)]
    exact target
  have filled := holders_set still (some source) ⟨handle⟩
  rw [if_neg (default_apart real)] at emptied
  rw [if_neg (empty_apart empty real)] at filled
  omega

theorem Owned.relocate (owned : Owned traits isOpen wrappers log) (found : wrappers[i]? = some (some source)) :
    Owned traits isOpen (wrappers.set i (some (.default traits)) ++ [some source]) log := by
  apply owned.rearrange
  intro handle real
  have emptied := holders_set found (some (UniqueHandle.default traits)) ⟨handle⟩
  rw [if_neg (default_apart real)] at emptied
  have filled := holders_snoc (wrappers.set i (some (.default traits))) source ⟨handle⟩
  have same : (⟨handle⟩ = source) = (some source = some (UniqueHandle.mk handle)) := by
    simp [eq_comm]
  simp only [same] at filled
  exact filled.trans (by omega)

theorem Owned.moveAssign (owned : Owned traits isOpen wrappers log) (distinct : i ≠ j)
    (target : slot wrappers i = some self) (found : slot wrappers j = some source) :
    Owned traits (closeAll isOpen (traits.closer self.handle)).1
      ((wrappers.set j (some (.default traits))).set i (some source))
      (log ++ (closeAll isOpen (traits.closer self.handle)).2) := by
  have emptied := owned.vacate (slot_found target) (some (.default traits)) fun _ real => default_apart real
  have still : (wrappers.set i (some (UniqueHandle.default traits)))[j]? = some (some source) := by
    rw [List.getElem?_set_ne distinct]
    exact slot_found found
  have here : (wrappers.set i (some (UniqueHandle.default traits)))[i]? = some (some (.default traits)) :=
    found_set target _
  have moved := Owned.transfer emptied distinct here (default_not_real traits) still
  rw [List.set_comm _ _ distinct, List.set_set] at moved
  exact moved

theorem Owned.reset (owned : Owned traits isOpen wrappers log) (target : slot wrappers i = some self)
    (newHandle : Option Handle)
    (fresh : ∀ handle ∈ newHandle, Real traits handle → isOpen handle = true ∧ holders wrappers ⟨handle⟩ = 0) :
    Owned traits (closeAll isOpen (traits.closer self.handle)).1
      (wrappers.set i (some ⟨newHandle.getD traits.invalid⟩))
      (log ++ ((closeAll isOpen (traits.closer self.handle)).2 ++ newHandle.toList.map .took)) := by
  have emptied := owned.vacate (slot_found target) (some (.default traits)) fun _ real => default_apart real
  cases newHandle with
  | none => simpa [UniqueHandle.default] using emptied
  | some handle =>
    have here : (wrappers.set i (some (UniqueHandle.default traits)))[i]? = some (some (.default traits)) :=
      found_set target _
    have filled := Owned.hold emptied here (default_not_real traits)
      (fun real => fresh_after_vacate (slot_found target) real (fresh handle rfl real))
    rw [List.set_set] at filled
    simpa using filled

theorem step_owned {action : Action Handle} (owned : Owned traits world.isOpen world.wrappers log)
    (taken : step traits world action = some (world', new)) :
    Owned traits world'.isOpen world'.wrappers (log ++ new) := by
  cases action with
  | construct =>
    cases taken
    rw [List.append_nil]
    apply owned.rearrange
    intro handle real
    have apart : UniqueHandle.mk handle ≠ .default traits := fun same =>
      default_apart real (congrArg some same.symm)
    simp [holders_snoc, apart]
  | constructRaw handle =>
    simp only [step] at taken
    split at taken
    next accepted =>
      cases taken
      apply owned.take (fresh_of_accepts accepted)
      intro other _
      simp [holders_snoc]
    next => cases taken
  | moveConstruct other =>
    simp only [step] at taken
    split at taken
    next source found =>
      cases taken
      rw [List.append_nil]
      exact Owned.relocate owned (slot_found found)
    next => cases taken
  | moveAssign target other =>
    simp only [step] at taken
    split at taken
    next self source first second =>
      split at taken
      next distinct =>
        cases taken
        rw [UniqueHandle.moveAssign, UniqueHandle.reset_calls]
        exact Owned.moveAssign owned distinct first second
      next =>
        cases taken
        simpa using owned
    next => cases taken
  | swap target other =>
    simp only [step] at taken
    split at taken
    next self source first second =>
      cases taken
      rw [List.append_nil]
      exact owned.rearrange fun _ _ => holders_swap (slot_found first) (slot_found second) _
    next => cases taken
  | release target =>
    simp only [step] at taken
    split at taken
    next self found =>
      cases taken
      exact owned.giveBack (holders_pos (slot_found found)) fun handle real =>
        vacated (slot_found found) (default_apart real)
    next => cases taken
  | reset target newHandle =>
    simp only [step] at taken
    split at taken
    next self found =>
      split at taken
      next accepted =>
        cases taken
        rw [UniqueHandle.reset_calls]
        apply Owned.reset owned found newHandle
        intro handle given
        subst given
        exact fresh_of_accepts (by simpa using accepted)
      next => cases taken
    next => cases taken
  | destroy target =>
    simp only [step] at taken
    split at taken
    next self found =>
      cases taken
      rw [UniqueHandle.destroy, UniqueHandle.reset_calls]
      exact owned.vacate (slot_found found) none fun _ _ => by simp
    next => cases taken
  | opened handle =>
    simp only [step] at taken
    split at taken
    next => cases taken
    next =>
      cases taken
      rw [List.append_nil]
      exact owned.elsewhere true (by simp)
  | closedElsewhere handle =>
    simp only [step] at taken
    split at taken
    next loose =>
      cases taken
      rw [List.append_nil]
      apply owned.elsewhere false
      intro _ _
      simp only [Bool.and_eq_true, decide_eq_true_eq] at loose
      exact loose.2
    next => cases taken

theorem run_owned {actions : List (Action Handle)} (ran : Machine.run (step traits) ⟨isOpen, []⟩ actions =
      some (world, log)) : Owned traits world.isOpen world.wrappers log := by
  have empty : Owned traits isOpen [] [] := Ledger.empty
  have kept := Machine.run_preserves (fun world log => Owned traits world.isOpen world.wrappers log)
    (fun _ _ _ _ _ (_ : True) owned taken => step_owned owned taken)
    [] (fun _ _ => trivial) empty ran
  simpa using kept

end World

-- HANDLE is a pointer; INVALID_HANDLE_VALUE has all bits set.
abbrev HANDLE := UInt64

def nullptr : HANDLE := 0

def INVALID_HANDLE_VALUE : HANDLE := 0xFFFFFFFFFFFFFFFF

def closeHandleDeleter (handle : HANDLE) : List HANDLE :=
  if handle ≠ INVALID_HANDLE_VALUE ∧ handle ≠ nullptr then [handle] else []

def WinHandle : HandleTraits HANDLE where
  invalid := INVALID_HANDLE_VALUE
  closer := closeHandleDeleter
  closer_self := by
    intro handle
    unfold closeHandleDeleter
    split
    · exact .inr rfl
    · exact .inl rfl
  closer_invalid := by simp [closeHandleDeleter]

theorem winHandle_real (handle : HANDLE) :
    Real WinHandle handle ↔ handle ≠ INVALID_HANDLE_VALUE ∧ handle ≠ nullptr := by
  simp [Real, WinHandle, closeHandleDeleter]

-- The last part counts per handle value: the system may reuse the value of a closed handle.
theorem winHandle_closes_once (isOpen : HANDLE → Bool) (actions : List (Action HANDLE))
    (world : World HANDLE) (log : List (Event HANDLE))
    (ran : Machine.run (World.step WinHandle) ⟨isOpen, []⟩ actions = some (world, log)) :
    (∀ handle, handle ≠ INVALID_HANDLE_VALUE → handle ≠ nullptr →
      (∀ i j, world.wrapper i = some ⟨handle⟩ → world.wrapper j = some ⟨handle⟩ → i = j) ∧
      (∀ i, world.wrapper i = some ⟨handle⟩ → world.isOpen handle = true) ∧
      custody handle log = some (world.owners handle) ∧
      ((∀ slot ∈ world.wrappers, slot = none) →
        tally Event.starts handle log = tally Event.returns handle log + tally Event.disposes handle log)) ∧
    (∀ handle wasOpen, .disposed handle wasOpen ∈ log →
      handle ≠ INVALID_HANDLE_VALUE ∧ handle ≠ nullptr ∧ wasOpen = true) := by
  have owned := World.run_owned ran
  constructor
  · intro handle valid nonnull
    have real : Real WinHandle handle := (winHandle_real handle).mpr ⟨valid, nonnull⟩
    have settled := owned.settled handle real
    refine ⟨fun i j first second => ?_, fun i found => ?_, settled, fun destroyed => ?_⟩
    · exact holders_unique (owned.owners_le_one real) (slot_found first)
        (slot_found second)
    · exact owned.owned_open handle real (holders_pos (slot_found found))
    · have counted := custody_tally settled
      rw [holders_none destroyed] at counted
      exact counted
  · intro handle wasOpen member
    obtain ⟨real, found⟩ := owned.disposed_open handle wasOpen member
    exact ⟨((winHandle_real handle).mp real).1, ((winHandle_real handle).mp real).2, found⟩

theorem winHandle_closes_once_replaced :
    ∃ world log,
      Machine.run (World.step WinHandle) ⟨fun handle => handle = 8 || handle = 12, []⟩
        [.construct, .constructRaw 8, .moveAssign 0 1, .destroy 1, .reset 0 (some 12), .release 0,
          .destroy 0] = some (world, log) ∧
      log = [.took 8, .disposed 8 true, .took 12, .gaveBack 12] ∧
      ∀ handle wasOpen, Event.disposed handle wasOpen ∈ log →
        handle ≠ INVALID_HANDLE_VALUE ∧ handle ≠ nullptr ∧ wasOpen = true :=
  ⟨_, _, rfl, rfl, (winHandle_closes_once (fun handle => handle = 8 || handle = 12)
    [.construct, .constructRaw 8, .moveAssign 0 1, .destroy 1, .reset 0 (some 12), .release 0,
      .destroy 0] _ _ rfl).2⟩

end Pirks.PlatformWindows
