import Pirks.Common.CircularBufferToStr

set_option autoImplicit false

namespace Pirks.CircularBuffer

open Execution OutputStream

variable {T : Type}

structure Legible (render : T → List UInt8) (readItem : List UInt8 → T) : Prop where
  nonempty : ∀ value, render value ≠ []
  unseparated : ∀ value, 0x2C ∉ render value
  reads : ∀ value, readItem (render value) = value

def between (text : List UInt8) : List UInt8 := (text.drop 1).dropLast

-- Nothing between the braces is no item, and not an empty one.
def readStr (readItem : List UInt8 → T) (text : List UInt8) : List T :=
  if between text = [] then [] else ((between text).splitOn 0x2C).map readItem

def printed (render : T → List UInt8) (items : List T) : List UInt8 :=
  leftBrace ++ List.intercalate comma (items.map render) ++ rightBrace

theorem between_printed (render : T → List UInt8) (items : List T) :
    between (printed render items) = List.intercalate comma (items.map render) := by
  simp [between, printed, leftBrace, rightBrace]

theorem Legible.readStr_printed {render : T → List UInt8} {readItem : List UInt8 → T}
    (legible : Legible render readItem) (items : List T) : readStr readItem (printed render items) = items := by
  rw [readStr, between_printed]
  cases items with
  | nil => rfl
  | cons first rest =>
    have some_ : List.intercalate comma ((first :: rest).map render) ≠ [] := by
      have shown := legible.nonempty first
      cases rest with
      | nil => simpa using shown
      | cons next rest =>
        rw [List.map_cons, List.map_cons, List.intercalate_cons_cons, List.append_assoc]
        exact List.append_ne_nil_of_left_ne_nil shown _
    have cut : (List.intercalate comma ((first :: rest).map render)).splitOn 0x2C = (first :: rest).map render := by
      refine List.splitOn_intercalate 0x2C (fun rendered member => ?_) (by simp)
      obtain ⟨value, -, rfl⟩ := List.mem_map.mp member
      exact legible.unseparated value
    rw [if_neg some_, cut, List.map_map]
    calc
      (first :: rest).map (readItem ∘ render) = (first :: rest).map id :=
        List.map_congr_left fun value _ => legible.reads value
      _ = first :: rest := List.map_id _

theorem Legible.printed_injective {render : T → List UInt8} {readItem : List UInt8 → T}
    (legible : Legible render readItem) {items others : List T}
    (same : printed render items = printed render others) : items = others := by
  rw [← legible.readStr_printed items, same, legible.readStr_printed]

def readDigits (chars : List UInt8) : Nat :=
  Nat.ofDigitChars 10 (chars.map fun char => Char.ofNat char.toNat) 0

theorem decimal_digit {value : Nat} {char : Char} (member : char ∈ Nat.toDigits 10 value) :
    48 ≤ char.toNat ∧ char.toNat ≤ 57 := by
  have isDigit := Nat.isDigit_of_mem_toDigits (by decide) (by decide) member
  simpa [Char.isDigit, UInt32.le_iff_toNat_le] using isDigit

theorem natural_legible : Legible Insertion.natural.render readDigits where
  nonempty := fun value => by simp [Insertion.natural, digits, Nat.toDigits_ne_nil]
  unseparated := by
    intro value member
    obtain ⟨char, written, same⟩ := List.mem_map.mp member
    obtain ⟨low, high⟩ := decimal_digit written
    have code := congrArg UInt8.toNat same
    simp only [Char.toUInt8, UInt32.toNat_toUInt8, UInt8.reduceToNat] at code
    have same : char.toNat = char.val.toNat := rfl
    omega
  reads := by
    intro value
    have restored : (digits 10 value).map (fun char => Char.ofNat char.toNat) = Nat.toDigits 10 value := by
      rw [digits, List.map_map]
      calc
        (Nat.toDigits 10 value).map ((fun char => Char.ofNat char.toNat) ∘ fun char => char.toUInt8) =
            (Nat.toDigits 10 value).map id := by
          refine List.map_congr_left fun char written => ?_
          obtain ⟨low, high⟩ := decimal_digit written
          have code : char.toUInt8.toNat = char.toNat := by
            rw [Char.toUInt8, UInt32.toNat_toUInt8]
            exact Nat.mod_eq_of_lt (show char.toNat < 256 by omega)
          simp [code]
        _ = Nat.toDigits 10 value := List.map_id _
    rw [readDigits, Insertion.natural, restored]
    exact Nat.ofDigitChars_toDigits (by decide) (by decide)

section Runs

variable [Element T]

theorem same_text_iff (insertion : Insertion T) (readItem : List UInt8 → T)
    (legible : Legible insertion.render readItem) (c c' : Nat) (reserved : Reserved ((c + 1) % sizeModulus))
    (reserved' : Reserved ((c' + 1) % sizeModulus)) (actions actions' : List (Monitor.Action (Call T)))
    (final final' : Monitor.State (CircularBuffer T) (Call T))
    (log log' : List (Monitor.Section (CircularBuffer T) (Call T) (Answer T)))
    (ran : Monitor.exec program (Monitor.start (construct c reserved)) actions = some (final, log))
    (ran' : Monitor.exec program (Monitor.start (construct c' reserved')) actions' = some (final', log')) :
    ∃ text text', (∃ enough, ∀ fuel, enough ≤ fuel →
        (perform (circularBufferToStr insertion fuel) ⟨final.shared, false⟩).1 = .ok (some text)) ∧
      (∃ enough, ∀ fuel, enough ≤ fuel →
        (perform (circularBufferToStr insertion fuel) ⟨final'.shared, false⟩).1 = .ok (some text')) ∧
      readStr readItem text = unread final.shared ∧
      (text = text' ↔ unread final.shared = unread final'.shared) := by
  obtain ⟨queue, holds⟩ := exec_holds ran
  obtain ⟨queue', holds'⟩ := exec_holds ran'
  rw [holds.unread_eq, holds'.unread_eq]
  refine ⟨printed insertion.render queue, printed insertion.render queue', ⟨queue.length + 1, ?_⟩,
    ⟨queue'.length + 1, ?_⟩, legible.readStr_printed queue, legible.printed_injective, fun same => by rw [same]⟩
  · intro fuel enough
    have here : Holds _ _ (Locked.mk final.shared false).buffer queue := holds
    rw [perform_circularBufferToStr insertion here enough]
    rfl
  · intro fuel enough
    have here : Holds _ _ (Locked.mk final'.shared false).buffer queue' := holds'
    rw [perform_circularBufferToStr insertion here enough]
    rfl

-- One buffer has overwritten its first element, the other one has handed it out.
theorem same_text_iff_overwrite :
    ∃ text text', readStr readDigits text = [20, 3, 4] ∧ text = text' := by
  obtain ⟨final, log, ran, content⟩ : ∃ final log,
      Monitor.exec program (Monitor.start (constructExact 3 : CircularBuffer Nat))
        [.enter 0 (.pushSpan ([10, 20, 3, 4].map .copies))] = some (final, log) ∧
      unread final.shared = [20, 3, 4] := ⟨_, _, rfl, rfl⟩
  obtain ⟨final', log', ran', content'⟩ : ∃ final log,
      Monitor.exec program (Monitor.start (constructExact 7 : CircularBuffer Nat))
        [.enter 1 (.pushSpan ([10, 20, 3].map .copies)), .enter 0 .pop, .enter 1 (.push (.copies 4))] =
          some (final, log) ∧
      unread final.shared = [20, 3, 4] := ⟨_, _, rfl, rfl⟩
  obtain ⟨text, text', -, -, reads, same⟩ := same_text_iff Insertion.natural readDigits natural_legible 3 7 _ _ _ _
    final final' log log' ran ran'
  exact ⟨text, text', by rw [reads, content], same.mpr (by rw [content, content'])⟩

end Runs

end Pirks.CircularBuffer
