import Mathlib.Data.List.TakeWhile

set_option autoImplicit false

namespace CString

def nul : Char := Char.ofNat 0

def upToNul (bytes : List UInt8) : List UInt8 :=
  bytes.takeWhile (· ≠ 0)

def utf8 (text : List Char) : List UInt8 :=
  text.flatMap String.utf8EncodeChar

def ofUtf8 (bytes : List UInt8) : Option (List Char) :=
  bytes.toByteArray.utf8Decode?.map Array.toList

theorem toByteArray_utf8 (text : List Char) : (utf8 text).toByteArray = text.utf8Encode := rfl

@[simp]
theorem ofUtf8_utf8 (text : List Char) : ofUtf8 (utf8 text) = some text := by
  simp [ofUtf8, toByteArray_utf8]

theorem ofUtf8_eq_some_iff {bytes : List UInt8} {text : List Char} :
    ofUtf8 bytes = some text ↔ utf8 text = bytes := by
  constructor
  · intro decoded
    obtain ⟨characters, found, rfl⟩ := Option.map_eq_some_iff.mp decoded
    have valid : bytes.toByteArray.utf8Decode?.isSome := by rw [found]; rfl
    have same := ByteArray.utf8Encode_get_utf8Decode? (h := valid)
    simp only [found, Option.get_some] at same
    exact List.toByteArray_inj.mp same
  · rintro rfl
    exact ofUtf8_utf8 text

theorem utf8_injective {text other : List Char} (same : utf8 text = utf8 other) : text = other := by
  have decoded := ofUtf8_utf8 text
  rw [same, ofUtf8_utf8, Option.some.injEq] at decoded
  exact decoded.symm

theorem utf8EncodeChar_nul : String.utf8EncodeChar nul = [0] := by decide

theorem ofNat_ne_zero {value : Nat} (positive : 0 < value) (small : value < 256) : UInt8.ofNat value ≠ 0 := by
  intro zero
  have same := congrArg UInt8.toNat zero
  rw [UInt8.toNat_ofNat', Nat.mod_eq_of_lt small] at same
  exact absurd same (Nat.pos_iff_ne_zero.mp positive)

-- A byte of value zero is never part of the code of another character.
theorem zero_notMem_utf8EncodeChar {character : Char} (other : character ≠ nul) :
    0 ∉ String.utf8EncodeChar character := by
  have positive : 0 < character.val.toNat := by
    rw [Nat.pos_iff_ne_zero]
    exact fun zero => other (Char.ext (UInt32.toNat_inj.mp zero))
  intro member
  simp only [String.utf8EncodeChar] at member
  split_ifs at member <;> simp only [List.mem_cons, List.not_mem_nil, or_false] at member
  next => exact ofNat_ne_zero positive (by omega) member.symm
  next =>
    rcases member with first | second
    · exact ofNat_ne_zero (by omega) (by omega) first.symm
    · exact ofNat_ne_zero (by omega) (by omega) second.symm
  next =>
    rcases member with first | second | third
    · exact ofNat_ne_zero (by omega) (by omega) first.symm
    · exact ofNat_ne_zero (by omega) (by omega) second.symm
    · exact ofNat_ne_zero (by omega) (by omega) third.symm
  next =>
    rcases member with first | second | third | fourth
    · exact ofNat_ne_zero (by omega) (by omega) first.symm
    · exact ofNat_ne_zero (by omega) (by omega) second.symm
    · exact ofNat_ne_zero (by omega) (by omega) third.symm
    · exact ofNat_ne_zero (by omega) (by omega) fourth.symm

theorem upToNul_append {bytes : List UInt8} (rest : List UInt8) (free : 0 ∉ bytes) :
    upToNul (bytes ++ rest) = bytes ++ upToNul rest := by
  apply List.takeWhile_append_of_pos
  intro byte member
  rw [decide_eq_true_iff]
  rintro rfl
  exact free member

theorem upToNul_utf8 (text : List Char) : upToNul (utf8 text) = utf8 (text.takeWhile (· ≠ nul)) := by
  induction text with
  | nil => rfl
  | cons character text ih =>
    rw [utf8, List.flatMap_cons, List.takeWhile_cons]
    by_cases ends : character = nul
    · simp [ends, utf8EncodeChar_nul, upToNul, utf8]
    · rw [upToNul_append _ (zero_notMem_utf8EncodeChar ends)]
      simp only [ends, ne_eq, not_false_eq_true, decide_true, if_true]
      rw [utf8, List.flatMap_cons, ← utf8, ← utf8, ← ih]

theorem takeWhile_eq_self_iff {text : List Char} : text.takeWhile (· ≠ nul) = text ↔ nul ∉ text := by
  rw [List.takeWhile_eq_self_iff]
  constructor
  · intro each member
    simpa using each nul member
  · intro free character member
    rw [decide_eq_true_iff]
    rintro rfl
    exact free member

end CString
