import Pirks.Common.CircularBufferThreads

set_option autoImplicit false

namespace Pirks

theorem StdVector.set_self {T : Type} {vector : StdVector T} {index : Nat} {value : T}
    (found : vector.elements[index]? = some value) : vector.set index value = vector := by
  obtain ⟨inside, same⟩ := List.getElem?_eq_some_iff.mp found
  cases vector
  simp [StdVector.set, ← same]

-- A std::vector as the element: a moved-from vector is empty.
instance {A : Type} : Element (List A) := ⟨[], fun _ => [], fun _ _ => []⟩

namespace CircularBuffer

open Execution Monitor

variable {T : Type}

def Reads : Call T → Prop
  | .peek | .peekFor _ | .pop | .popFor _ | .popBatch _ _ | .popBatchFor _ _ _ => True
  | _ => False

def told (log : List (Section (CircularBuffer T) (Call T) (Answer T))) :
    List (Nat × Call T × Outcome (Answer T)) :=
  log.map fun executed => (executed.thread, executed.call, executed.result.outcome)

def afterMove (b : CircularBuffer T) (left : T) : CircularBuffer T :=
  { b with buffer := b.buffer.set b.startIndex left }

variable {size capacity : Nat} {b : CircularBuffer T} {first : T} {rest : List T}

section Peeking

variable [Element T]

def SameAnswers (left right : State (CircularBuffer T) (Call T)) : Prop :=
  ∀ actions, (∀ action ∈ actions, action.Makes Reads) →
    (exec program left actions).map (fun ran => told ran.2) =
      (exec program right actions).map (fun ran => told ran.2)

def PeekKeeps (state : State (CircularBuffer T) (Call T)) (thread : Nat) (delay : Int) (oldest : T) : Prop :=
  ∃ peeked new, step program state (.enter thread (.peekFor delay)) = some (peeked, new) ∧
    told new = [(thread, .peekFor delay, .returned (.ok (.element (some oldest))))] ∧
    (program.critical .peek .enter state.shared).outcome = .returned (.ok (.element (some oldest))) ∧
    SameAnswers peeked state

theorem critical_peek (holds : Holds size capacity b (first :: rest)) (active : b.active = true) :
    program.critical .peek .enter b = ⟨b, false, .returned (.ok (.element (some first)))⟩ := by
  have here : Holds size capacity (Locked.mk b false).buffer (first :: rest) := holds
  rw [critical_immediate Reply.element rfl, perform_peek here]
  simp [active]

theorem critical_peekFor (holds : Holds size capacity b (first :: rest)) (active : b.active = true)
    (delay : Int) :
    program.critical (.peekFor delay) .enter b =
      ⟨afterMove b (Element.movedFrom first), false, .returned (.ok (.element (some first)))⟩ := by
  have here : Holds size capacity (Locked.mk b false).buffer (first :: rest) := holds
  have apart := holds.indices_apart (by simp)
  have blocks : blocking? (.peekFor delay) = some (peekFor delay : Blocking T) := rfl
  exact critical_available blocks Entry.enter_inTime active apart (perform_moveFront here)

variable {state : State (CircularBuffer T) (Call T)} {thread : Nat}

theorem step_peekFor (holds : Holds size capacity state.shared (first :: rest))
    (active : state.shared.active = true) (idle : state.phase thread = .idle) (delay : Int) :
    ∃ new, step program state (.enter thread (.peekFor delay)) =
        some ({ state with shared := afterMove state.shared (Element.movedFrom first) }, new) ∧
      told new = [(thread, .peekFor delay, .returned (.ok (.element (some first))))] := by
  have here := critical_peekFor holds active delay
  have phase : Function.update state.phase thread .idle = state.phase := by
    rw [← idle, Function.update_eq_self]
  exact ⟨[executed program state thread (.peekFor delay) .enter],
    by simp [step, idle, commit, here, Result.phase, Monitor.notifyAll, phase], by simp [told, executed, here]⟩

theorem told_peek (holds : Holds size capacity state.shared (first :: rest))
    (active : state.shared.active = true) (idle : state.phase thread = .idle) :
    (exec program state [.enter thread .peek]).map (fun ran => told ran.2) =
      some [(thread, .peek, .returned (.ok (.element (some first))))] := by
  have here := critical_peek holds active
  simp [exec, Machine.run, step, idle, executed, here, told]

theorem Holds.keeps_iff (holds : Holds size capacity state.shared (first :: rest))
    (active : state.shared.active = true) (idle : state.phase thread = .idle) (delay : Int) :
    PeekKeeps state thread delay first ↔ Element.movedFrom first = first := by
  obtain ⟨new, taken, answered⟩ := step_peekFor holds active idle delay
  constructor
  · intro keeps
    obtain ⟨peeked, _, taken', -, -, same⟩ := keeps
    rw [taken] at taken'
    cases taken'
    -- A second peek finds what the move has left in the slot.
    let moved := { state with shared := afterMove state.shared (Element.movedFrom first) }
    have held : Holds size capacity moved.shared (Element.movedFrom first :: rest) := holds.replaceFront _
    have again := same [.enter thread .peek] (by simp [Action.Makes, Reads])
    rw [told_peek holds active idle, told_peek held active idle] at again
    simpa using again
  · intro kept
    have unmoved : { state with shared := afterMove state.shared (Element.movedFrom first) } = state := by
      rw [kept, afterMove, StdVector.set_self holds.front]
    rw [unmoved] at taken
    exact ⟨state, new, taken, answered, by rw [critical_peek holds active], fun _ _ => rfl⟩

theorem peekKeeps_iff (c : Nat) (reserved : Reserved ((c + 1) % sizeModulus))
    (actions : List (Action (Call T))) (final : State (CircularBuffer T) (Call T))
    (log : List (Section (CircularBuffer T) (Call T) (Answer T)))
    (ran : exec program (start (construct c reserved)) actions = some (final, log))
    (active : final.shared.active = true) (thread : Nat) (idle : final.phase thread = .idle)
    (delay : Int) (oldest : T) (front : (unread final.shared).head? = some oldest) :
    PeekKeeps final thread delay oldest ↔ Element.movedFrom oldest = oldest := by
  obtain ⟨queue, holds⟩ := exec_holds ran
  rw [holds.unread_eq] at front
  obtain ⟨rest, rfl⟩ := List.head?_eq_some_iff.mp front
  exact holds.keeps_iff active idle delay

theorem peekKeeps_iff_emptied :
    ∃ final log,
      exec program (start (construct 2 ⟨3, by decide, by decide⟩ : CircularBuffer (List Nat)))
        [.enter 0 (.push (.copies [1, 2])), .enter 0 (.push (.copies [3]))] = some (final, log) ∧
      (PeekKeeps final 1 100 [1, 2] ↔ Element.movedFrom [1, 2] = [1, 2]) := by
  obtain ⟨final, log, ran, active, idle, front⟩ : ∃ final log,
      exec program (start (construct 2 ⟨3, by decide, by decide⟩ : CircularBuffer (List Nat)))
        [.enter 0 (.push (.copies [1, 2])), .enter 0 (.push (.copies [3]))] = some (final, log) ∧
      final.shared.active = true ∧ final.phase 1 = .idle ∧
      (unread final.shared).head? = some [1, 2] := ⟨_, _, rfl, rfl, rfl, rfl⟩
  exact ⟨final, log, ran, peekKeeps_iff 2 ⟨3, by decide, by decide⟩ _ final log ran active 1 idle 100 [1, 2] front⟩

theorem peekKeeps_fails_for_vectors :
    ¬∀ (c : Nat) (reserved : Reserved ((c + 1) % sizeModulus)) (actions : List (Action (Call (List Nat))))
        (final : State (CircularBuffer (List Nat)) (Call (List Nat)))
        (log : List (Section (CircularBuffer (List Nat)) (Call (List Nat)) (Answer (List Nat))))
        (thread : Nat) (delay : Int) (oldest : List Nat),
      exec program (start (construct c reserved)) actions = some (final, log) →
      final.shared.active = true → final.phase thread = .idle →
      (unread final.shared).head? = some oldest → PeekKeeps final thread delay oldest := by
  intro always
  obtain ⟨peeked, new, taken, -, -, same⟩ := always 2 ⟨3, by decide, by decide⟩
    [.enter 0 (.push (.copies [1, 2]))] _ _ 1 100 [1, 2] rfl rfl rfl rfl
  cases taken
  have again := same [.enter 1 .pop] (by simp [Action.Makes, Reads])
  cases again

end Peeking

end CircularBuffer

end Pirks
