import Pirks.Foundation.Execution
import Pirks.Foundation.Monitor

set_option autoImplicit false

namespace Pirks

-- size_t arithmetic is taken modulo 2 ^ 64.
def sizeModulus : Nat := UInt64.size

-- std::vector promises capacity() >= size(), not that the two are equal.
structure StdVector (T : Type) where
  elements : List T
  capacity : Nat
  enough : elements.length ≤ capacity
  representable : capacity < sizeModulus

def StdVector.size {T : Type} (vector : StdVector T) : Nat := vector.elements.length

def StdVector.set {T : Type} (vector : StdVector T) (index : Nat) (value : T) : StdVector T where
  elements := vector.elements.set index value
  capacity := vector.capacity
  enough := by simpa using vector.enough
  representable := vector.representable

-- The special members of T that the buffer uses: T{}, and what a move leaves behind. What is read out
-- of the buffer is taken not to throw.
class Element (T : Type) where
  initial : T
  movedFrom : T → T
  moveAssigned : T → T → T

-- Trivially movable types keep their value when they are moved from.
instance : Element Nat := ⟨0, id, fun value _ => value⟩

instance : Element Bool := ⟨false, id, fun value _ => value⟩

-- A caller's element with the outcome of copying it: a copy that throws leaves some value.
inductive Source (T : Type) where
  | copies (value : T)
  | throws (value left : T)
  deriving DecidableEq

def Source.value {T : Type} : Source T → T
  | .copies value => value
  | .throws value _ => value

def Source.Copies {T : Type} : Source T → Prop
  | .copies _ => True
  | .throws _ _ => False

inductive Fault where
  -- std::out_of_range from buffer_.at
  | outOfRange (index : Nat)
  | divideByZero
  | copyThrew
  -- operator[] past the end of out_buffer
  | undefinedIndex (index : Nat)
  deriving DecidableEq

structure CircularBuffer (T : Type) where
  active : Bool
  buffer : StdVector T
  startIndex : Nat
  endIndex : Nat

inductive Reply (T : Type) where
  | done
  | element (value : Option T)
  | batch (count : Nat) (outBuffer : List T)
  | flag (value : Bool)
  deriving DecidableEq

namespace CircularBuffer

open Execution
open Monitor (Entry Outcome)

variable {T : Type}

-- The state seen by a thread that holds mutex_, and whether it has called cv_.notify_all().
structure Locked (T : Type) where
  buffer : CircularBuffer T
  notified : Bool

abbrev Critical (T A : Type) := Procedure Fault (Locked T) A

-- What buffer_.resize(size) allocates for an empty vector.
structure Reserved (size : Nat) where
  capacity : Nat
  enough : size ≤ capacity
  representable : capacity < sizeModulus

def Reserved.exact (size : Nat) (representable : size < sizeModulus) : Reserved size :=
  ⟨size, Nat.le_refl _, representable⟩

def construct [Element T] (capacity : Nat) (reserved : Reserved ((capacity + 1) % sizeModulus)) :
    CircularBuffer T where
  active := true
  buffer :=
    { elements := List.replicate ((capacity + 1) % sizeModulus) Element.initial
      capacity := reserved.capacity
      enough := by simpa using reserved.enough
      representable := reserved.representable }
  startIndex := 0
  endIndex := 0

-- The usual standard libraries allocate exactly size elements.
def constructExact [Element T] (capacity : Nat) : CircularBuffer T :=
  construct capacity (.exact _ (Nat.mod_lt _ (Nat.two_pow_pos 64)))

def current : Critical T (CircularBuffer T) := do
  return (← get).buffer

@[simp]
theorem perform_current (locked : Locked T) : perform current locked = (.ok locked.buffer, locked) := rfl

def vectorAt (index : Nat) : Critical T T := do
  match (← current).buffer.elements[index]? with
  | some value => return value
  | none => throw (.outOfRange index)

theorem perform_vectorAt {index : Nat} {locked : Locked T} {value : T}
    (found : locked.buffer.buffer.elements[index]? = some value) :
    perform (vectorAt index) locked = (.ok value, locked) := by
  simp [vectorAt, perform_bind, found]

theorem perform_vectorAt_outOfRange {index : Nat} {locked : Locked T}
    (outside : locked.buffer.buffer.size ≤ index) :
    perform (vectorAt index) locked = (.error (.outOfRange index), locked) := by
  have missing : locked.buffer.buffer.elements[index]? = none := List.getElem?_eq_none outside
  simp [vectorAt, perform_bind, missing]

def setSlot (index : Nat) (value : T) : Critical T Unit :=
  modify fun locked =>
    { locked with buffer := { locked.buffer with buffer := locked.buffer.buffer.set index value } }

@[simp]
theorem perform_setSlot (index : Nat) (value : T) (locked : Locked T) :
    perform (setSlot index value) locked =
      (.ok (), { locked with
        buffer := { locked.buffer with buffer := locked.buffer.buffer.set index value } }) := rfl

def setStart (index : Nat) : Critical T Unit :=
  modify fun locked => { locked with buffer := { locked.buffer with startIndex := index } }

@[simp]
theorem perform_setStart (index : Nat) (locked : Locked T) :
    perform (setStart index) locked =
      (.ok (), { locked with buffer := { locked.buffer with startIndex := index } }) := rfl

def setEnd (index : Nat) : Critical T Unit :=
  modify fun locked => { locked with buffer := { locked.buffer with endIndex := index } }

@[simp]
theorem perform_setEnd (index : Nat) (locked : Locked T) :
    perform (setEnd index) locked =
      (.ok (), { locked with buffer := { locked.buffer with endIndex := index } }) := rfl

def notifyAll : Critical T Unit :=
  modify fun locked => { locked with notified := true }

@[simp]
theorem perform_notifyAll (locked : Locked T) :
    perform notifyAll locked = (.ok (), { locked with notified := true }) := rfl

def next (sz index : Nat) : Nat := (index + 1) % sizeModulus % sz

-- (index + 1) % sz
def advance (sz index : Nat) : Critical T Nat :=
  if sz = 0 then throw .divideByZero else return next sz index

theorem perform_advance {sz : Nat} (positive : 0 < sz) (index : Nat) (locked : Locked T) :
    perform (advance sz index) locked = (.ok (next sz index), locked) := by
  have nonzero : sz ≠ 0 := by omega
  simp [advance, nonzero]

@[simp]
theorem perform_advance_zero (index : Nat) (locked : Locked T) :
    perform (advance 0 index) locked = (.error .divideByZero, locked) := rfl

-- buffer_.at(index) = std::move(element), a copy because the element is const.
def assignAt (index : Nat) (element : Source T) : Critical T Unit := do
  let _ ← vectorAt index
  match element with
  | .copies value => setSlot index value
  | .throws _ left =>
      setSlot index left
      throw .copyThrew

-- The body shared by push and by the loop of push(span).
def store (sz : Nat) (element : Source T) : Critical T Unit := do
  assignAt (← current).endIndex element
  let endIndex ← advance sz (← current).endIndex
  setEnd endIndex
  if endIndex = (← current).startIndex then
    let startIndex ← advance sz (← current).startIndex
    setStart startIndex

def push (element : Source T) : Critical T Unit := do
  if (← current).active then
    let sz := (← current).buffer.capacity
    store sz element
    notifyAll

def storeAll (sz : Nat) : List (Source T) → Critical T Unit
  | [] => return ()
  | element :: elements => do
      store sz element
      storeAll sz elements

def pushSpan (elements : List (Source T)) : Critical T Unit := do
  if (← current).active then
    let sz := (← current).buffer.capacity
    storeAll sz elements
    notifyAll

def peek : Critical T (Option T) := do
  let buffer ← current
  if ¬buffer.active then return none
  else if buffer.startIndex = buffer.endIndex then return none
  else
    let value ← vectorAt buffer.startIndex
    return some value

section Blocking

variable [Element T]

-- std::move(buffer_.at(index)) as the source of a move construction
def moveAt (index : Nat) : Critical T T := do
  let value ← vectorAt index
  setSlot index (Element.movedFrom value)
  return value

-- target = std::move(buffer_.at(index))
def moveAssignAt (index : Nat) (target : T) : Critical T T := do
  let value ← vectorAt index
  setSlot index (Element.moveAssigned value target)
  return value

-- A call that waits while the buffer is empty: what it returns when it gives up, and what it
-- does, mutex held, once there is an element.
structure Blocking (T : Type) where
  delay : Option Int
  nothing : Reply T
  body : Critical T (Reply T)

def Blocking.section (call : Blocking T) : Entry → Critical T (Outcome (Reply T))
  -- wait_for returned std::cv_status::timeout
  | .resume true => return .returned call.nothing
  | .enter | .resume false => do
      let buffer ← current
      if ¬buffer.active then return .returned call.nothing
      else if buffer.startIndex = buffer.endIndex then return .waits
      else
        let reply ← call.body
        return .returned reply

def takeFront : Critical T (Reply T) := do
  let result ← moveAt (← current).startIndex
  let sz := (← current).buffer.capacity
  let startIndex ← advance sz (← current).startIndex
  setStart startIndex
  return .element (some result)

def moveFront : Critical T (Reply T) := do
  let value ← moveAt (← current).startIndex
  return .element (some value)

def resize (outBuffer : List T) (size : Nat) : List T :=
  outBuffer.take size ++ List.replicate (size - outBuffer.length) Element.initial

-- The loop of the batch pops; `remaining` counts max_elements - i down.
def batchLoop (sz : Nat) : Nat → Nat → List T → Critical T (Reply T)
  | 0, i, outBuffer => return .batch i outBuffer
  | remaining + 1, i, outBuffer =>
      match outBuffer[i]? with
      | none => throw (.undefinedIndex i)
      | some target => do
          let value ← moveAssignAt (← current).startIndex target
          let startIndex ← advance sz (← current).startIndex
          setStart startIndex
          if startIndex = (← current).endIndex then return .batch (i + 1) (outBuffer.set i value)
          else batchLoop sz remaining (i + 1) (outBuffer.set i value)

def takeBatch (outBuffer : List T) (maxElements : Nat) : Critical T (Reply T) := do
  let sz := (← current).buffer.capacity
  batchLoop sz maxElements 0 (resize outBuffer (min sz maxElements))

def peekFor (delay : Int) : Blocking T := ⟨some delay, .element none, moveFront⟩

def pop : Blocking T := ⟨none, .element none, takeFront⟩

def popFor (delay : Int) : Blocking T := ⟨some delay, .element none, takeFront⟩

def popBatch (outBuffer : List T) (maxElements : Nat) : Blocking T :=
  ⟨none, .batch 0 outBuffer, takeBatch outBuffer maxElements⟩

def popBatchFor (outBuffer : List T) (maxElements : Nat) (delay : Int) : Blocking T :=
  ⟨some delay, .batch 0 outBuffer, takeBatch outBuffer maxElements⟩

end Blocking

def isEmpty : Critical T Bool := do
  let buffer ← current
  if ¬buffer.active then return true
  else return decide (buffer.startIndex = buffer.endIndex)

def isFull : Critical T Bool := do
  let buffer ← current
  if ¬buffer.active then return false
  else
    let sz := buffer.buffer.capacity
    let startIndex ← advance sz buffer.startIndex
    return decide (buffer.endIndex = startIndex)

def stop : Critical T Unit := do
  modify fun locked => { locked with buffer := { locked.buffer with active := false } }
  notifyAll

end CircularBuffer

inductive Call (T : Type) where
  | push (element : Source T)
  | pushSpan (elements : List (Source T))
  | peek
  | peekFor (delay : Int)
  | pop
  | popFor (delay : Int)
  | popBatch (outBuffer : List T) (maxElements : Nat)
  | popBatchFor (outBuffer : List T) (maxElements : Nat) (delay : Int)
  | isEmpty
  | isFull
  | stop
  deriving DecidableEq

namespace CircularBuffer

open Execution
open Monitor (Entry Outcome)

variable {T : Type} [Element T]

def immediate {A : Type} (body : Critical T A) (reply : A → Reply T) :
    Critical T (Outcome (Reply T)) := do
  let value ← body
  return .returned (reply value)

def dispatch : Call T → Entry → Critical T (Outcome (Reply T))
  | .push element, _ => immediate (push element) fun _ => .done
  | .pushSpan elements, _ => immediate (pushSpan elements) fun _ => .done
  | .peek, _ => immediate peek .element
  | .peekFor delay, entry => (peekFor delay).section entry
  | .pop, entry => pop.section entry
  | .popFor delay, entry => (popFor delay).section entry
  | .popBatch outBuffer maxElements, entry => (popBatch outBuffer maxElements).section entry
  | .popBatchFor outBuffer maxElements delay, entry =>
      (popBatchFor outBuffer maxElements delay).section entry
  | .isEmpty, _ => immediate isEmpty .flag
  | .isFull, _ => immediate isFull .flag
  | .stop, _ => immediate stop fun _ => .done

abbrev Answer (T : Type) := Except Fault (Reply T)

def finish : Except Fault (Outcome (Reply T)) × Locked T →
    Monitor.Result (CircularBuffer T) (Answer T)
  | (.ok (.returned reply), locked) => ⟨locked.buffer, locked.notified, .returned (.ok reply)⟩
  | (.ok .waits, locked) => ⟨locked.buffer, locked.notified, .waits⟩
  | (.error fault, locked) => ⟨locked.buffer, locked.notified, .returned (.error fault)⟩

def timed : Call T → Bool
  | .peekFor _ | .popFor _ | .popBatchFor _ _ _ => true
  | _ => false

def program : Monitor.Program (CircularBuffer T) (Call T) (Answer T) where
  timed := timed
  critical call entry buffer := finish (perform (dispatch call entry) ⟨buffer, false⟩)

end CircularBuffer

end Pirks
