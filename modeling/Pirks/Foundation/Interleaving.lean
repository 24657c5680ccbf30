import Mathlib.Tactic.Common

set_option autoImplicit false

namespace Interleaving

variable {A : Type} {lanes : Nat} {Belongs : Nat → A → Prop}

def Interleaved (lanes : Nat) (Belongs : Nat → A → Prop) (items : List A) : Prop :=
  ∀ index item, items[index]? = some item → Belongs (index % lanes) item

theorem Interleaved.nil : Interleaved lanes Belongs [] := by
  intro index item found
  cases found

theorem Interleaved.take {items : List A} (interleaved : Interleaved lanes Belongs items) (count : Nat) :
    Interleaved lanes Belongs (items.take count) := by
  intro index item found
  rw [List.getElem?_take] at found
  split at found
  next => exact interleaved index item found
  next => cases found

theorem Interleaved.drop {items : List A} (interleaved : Interleaved lanes Belongs items) {count : Nat}
    (aligned : lanes ∣ count) : Interleaved lanes Belongs (items.drop count) := by
  intro index item found
  rw [List.getElem?_drop] at found
  have lane := interleaved (count + index) item found
  rwa [Nat.add_mod, Nat.mod_eq_zero_of_dvd aligned, Nat.zero_add, Nat.mod_mod] at lane

theorem Interleaved.append {items more : List A} (first : Interleaved lanes Belongs items)
    (second : Interleaved lanes Belongs more) (aligned : lanes ∣ items.length) :
    Interleaved lanes Belongs (items ++ more) := by
  intro index item found
  by_cases early : index < items.length
  next =>
    rw [List.getElem?_append_left early] at found
    exact first index item found
  next =>
    obtain ⟨offset, rfl⟩ := Nat.exists_eq_add_of_le (Nat.le_of_not_lt early)
    rw [List.getElem?_append_right (Nat.le_add_right _ _), Nat.add_sub_cancel_left] at found
    rw [Nat.add_mod, Nat.mod_eq_zero_of_dvd aligned, Nat.zero_add, Nat.mod_mod]
    exact second offset item found

end Interleaving
