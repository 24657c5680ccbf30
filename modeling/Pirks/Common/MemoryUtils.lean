import Mathlib.Data.List.Basic
import Mathlib.Tactic.Common
import Pirks.Foundation.OutputStream

set_option autoImplicit false

namespace Pirks.MemoryUtils

open OutputStream

-- Bytes of text; a std::string holds the same.
abbrev Text := List UInt8

-- std::span<const std::uint8_t>; below 2 ^ 63 bytes a size_t does not wrap around in the loops.
structure Span where
  bytes : List UInt8
  bounded : bytes.length < 0x8000000000000000

namespace Span

def size (data : Span) : Nat := data.bytes.length

-- i + j, a size_t
def position (i j : Nat) : Nat := (i + j) % UInt64.size

theorem position_eq {data : Span} {i j : Nat} (inside : i < data.size) (small : j ≤ 16) :
    position i j = i + j := by
  have bounded := data.bounded
  apply Nat.mod_eq_of_lt
  simp only [size, UInt64.size] at inside ⊢
  omega

end Span

def colon : Text := [0x3A, 0x20]

def blank : Text := [0x20]

inductive CharKind where
  | signed
  | unsigned

-- static_cast<char>(byte), as the comparisons with 32 and 126 see it
def CharKind.value : CharKind → UInt8 → Int
  | .signed, byte => byte.toInt8.toInt
  | .unsigned, byte => byte.toNat

def printable (kind : CharKind) (byte : UInt8) : UInt8 :=
  if 32 ≤ kind.value byte ∧ kind.value byte ≤ 126 then byte else 0x2E

-- Output hexadecimal values
def putHexColumn (data : Span) (i j : Nat) (ss : OutputStream) : OutputStream :=
  let ss := match data.bytes[Span.position i j]? with
    | some byte => ((((ss.hex.setw 2).setfill (digit 0)).putNumber byte.toNat)).put blank
    | none => ss.put [0x20, 0x20, 0x20]
  if j = 7 then ss.put blank else ss

-- Output ASCII representation
def putAsciiColumn (kind : CharKind) (data : Span) (i j : Nat) (ss : OutputStream) : OutputStream :=
  let ss := match data.bytes[Span.position i j]? with
    | some byte => ss.put [printable kind byte]
    | none => ss.put blank
  if j = 7 then ss.put blank else ss

def putRow (kind : CharKind) (data : Span) (prefix_ : Text) (i : Nat) (ss : OutputStream) : OutputStream :=
  let ss := ss.put prefix_
  let ss := (((ss.hex.setw 8).setfill (digit 0)).putNumber i).put colon
  let ss := (List.range 16).foldl (fun ss j => putHexColumn data i j ss) ss
  let ss := ss.put [0x20, 0x7C]
  let ss := (List.range 16).foldl (fun ss j => putAsciiColumn kind data i j ss) ss
  ss.put [0x7C, 0x0A]

def putRows (kind : CharKind) (data : Span) (prefix_ : Text) (i : Nat) (ss : OutputStream) : OutputStream :=
  if _ : i < data.size then
    putRows kind data prefix_ (Span.position i 16) (putRow kind data prefix_ i ss)
  else ss
termination_by data.size - i
decreasing_by
  rename_i inside
  rw [Span.position_eq inside (Nat.le_refl 16)]
  omega

def dumpMemoryToString (kind : CharKind) (data : Span) (prefix_ : Text) : Text :=
  (putRows kind data prefix_ 0 .initial).text

def hexColumn (data : Span) (i j : Nat) : Text :=
  (match data.bytes[Span.position i j]? with
    | some byte => padded (digit 0) 2 (digits 16 byte.toNat) ++ blank
    | none => [0x20, 0x20, 0x20]) ++ if j = 7 then blank else []

def asciiCell : Option UInt8 → UInt8
  | some byte => if 32 ≤ byte ∧ byte ≤ 126 then byte else 0x2E
  | none => 0x20

def asciiColumn (data : Span) (i j : Nat) : Text :=
  asciiCell data.bytes[Span.position i j]? :: if j = 7 then blank else []

-- The offset of a row is wider than 8 digits from 2 ^ 32 on.
def offset (i : Nat) : Text := padded (digit 0) 8 (digits 16 i)

def row (data : Span) (prefix_ : Text) (i : Nat) : Text :=
  prefix_ ++ (offset i ++ colon ++ ((List.range 16).flatMap (hexColumn data i) ++
    ([0x20, 0x7C] ++ ((List.range 16).flatMap (asciiColumn data i) ++ [0x7C, 0x0A]))))

theorem writes_trailing {output : OutputStream → OutputStream} {piece : Text} (writes : Writes output piece)
    (j : Nat) :
    Writes (fun ss => if j = 7 then (output ss).put blank else output ss)
      (piece ++ if j = 7 then blank else []) := by
  split
  next => exact writes.followed_by (writes_put blank)
  next => simpa using writes

theorem putHexColumn_writes (data : Span) (i j : Nat) :
    Writes (putHexColumn data i j) (hexColumn data i j) := by
  apply writes_trailing
  split
  next byte found => exact (writes_hex 2 (digit 0) byte.toNat).followed_by (writes_put blank)
  next => exact writes_put _

-- A negative char is no more printable than one above 126.
theorem printable_eq (kind : CharKind) (byte : UInt8) : printable kind byte = asciiCell (some byte) := by
  have bounded := byte.toNat_lt
  have same : 32 ≤ kind.value byte ∧ kind.value byte ≤ 126 ↔ 32 ≤ byte ∧ byte ≤ 126 := by
    rw [UInt8.le_iff_toNat_le, UInt8.le_iff_toNat_le]
    change _ ↔ 32 ≤ byte.toNat ∧ byte.toNat ≤ 126
    cases kind with
    | unsigned =>
      have plain : CharKind.value .unsigned byte = byte.toNat := rfl
      rw [plain]
      omega
    | signed =>
      have wrapped : CharKind.value .signed byte =
          if 2 * byte.toNat < 256 then (byte.toNat : Int) else (byte.toNat : Int) - 256 :=
        BitVec.toInt_eq_toNat_cond byte.toBitVec
      rw [wrapped]
      split <;> omega
  simp only [printable, asciiCell, same]

theorem putAsciiColumn_writes (kind : CharKind) (data : Span) (i j : Nat) :
    Writes (putAsciiColumn kind data i j) (asciiColumn data i j) := by
  rw [asciiColumn, ← List.singleton_append]
  apply writes_trailing
  cases data.bytes[Span.position i j]? with
  | none => exact writes_put _
  | some byte =>
    rw [← printable_eq kind]
    exact writes_put _

theorem putRow_writes (kind : CharKind) (data : Span) (prefix_ : Text) (i : Nat) :
    Writes (putRow kind data prefix_ i) (row data prefix_ i) :=
  (writes_put prefix_).followed_by <| ((writes_hex 8 (digit 0) i).followed_by (writes_put colon)).followed_by <|
    (Writes.loop (putHexColumn_writes data i) _).followed_by <| (writes_put _).followed_by <|
    (Writes.loop (putAsciiColumn_writes kind data i) _).followed_by (writes_put _)

def rowCount (data : Span) (i : Nat) : Nat := (data.size - i + 15) / 16

def rows (data : Span) (prefix_ : Text) : Nat → Nat → Text
  | 0, _ => []
  | count + 1, i => row data prefix_ i ++ rows data prefix_ count (i + 16)

theorem putRows_text (kind : CharKind) {data : Span} {prefix_ : Text} {count i : Nat}
    (counted : rowCount data i = count) {ss : OutputStream} (unpadded : ss.width = 0) :
    (putRows kind data prefix_ i ss).text = ss.text ++ rows data prefix_ count i := by
  unfold rowCount at counted
  induction count generalizing i ss with
  | zero =>
    have done : ¬i < data.size := by omega
    rw [putRows, dif_neg done]
    simp [rows]
  | succ count ih =>
    have inside : i < data.size := by omega
    obtain ⟨wrote, reset⟩ := putRow_writes kind data prefix_ i ss unpadded
    rw [putRows, dif_pos inside, Span.position_eq inside (Nat.le_refl 16), ih (by omega) reset, wrote, rows,
      List.append_assoc]

theorem dumpMemoryToString_rows (kind : CharKind) (data : Span) (prefix_ : Text) :
    dumpMemoryToString kind data prefix_ = rows data prefix_ (rowCount data 0) 0 := by
  rw [dumpMemoryToString, putRows_text kind rfl rfl]
  rfl

theorem columns_length {piece : Nat → Text} {width : Nat}
    (each : ∀ j, (piece j).length = width + if j = 7 then 1 else 0) (n : Nat) :
    ((List.range n).flatMap piece).length = width * n + if 7 < n then 1 else 0 := by
  induction n with
  | zero => simp
  | succ n ih =>
    rw [List.range_succ, List.flatMap_append, List.length_append, ih, List.flatMap_singleton, each, Nat.mul_succ]
    split <;> split <;> split <;> omega

theorem hexColumn_length (data : Span) (i j : Nat) :
    (hexColumn data i j).length = 3 + if j = 7 then 1 else 0 := by
  unfold hexColumn
  rw [List.length_append]
  congr 1
  · split
    next byte _ => rw [digits_byte byte.toNat_lt]; rfl
    next => rfl
  · split <;> rfl

theorem asciiColumn_length (data : Span) (i j : Nat) :
    (asciiColumn data i j).length = 1 + if j = 7 then 1 else 0 := by
  unfold asciiColumn
  split <;> rfl

def rowLength (prefixLength i : Nat) : Nat := prefixLength + (offset i).length + 72

theorem row_length (data : Span) (prefix_ : Text) (i : Nat) :
    (row data prefix_ i).length = rowLength prefix_.length i := by
  simp only [row, rowLength, List.length_append, columns_length (hexColumn_length data i),
    columns_length (asciiColumn_length data i), colon]
  simp
  omega

def hexValue (char : UInt8) : Option Nat :=
  if 0x30 ≤ char ∧ char ≤ 0x39 then some (char.toNat - 0x30)
  else if 0x61 ≤ char ∧ char ≤ 0x66 then some (char.toNat - 0x57)
  else none

-- Padding is not a pair of digits.
def decodeColumn : Text → Option UInt8
  | [high, low] =>
      match hexValue high, hexValue low with
      | some high, some low => some (UInt8.ofNat (16 * high + low))
      | _, _ => none
  | _ => none

def columnAt (j : Nat) : Nat := 3 * j + if 7 < j then 1 else 0

-- Two characters each, at places that the offset and the length of the prefix determine.
def hexColumns (prefixLength : Nat) : Nat → Nat → Text → List Text
  | 0, _, _ => []
  | fuel + 1, i, text =>
      if text.isEmpty then []
      else
        (List.range 16).map (fun j =>
            (text.drop (prefixLength + (offset i).length + 2 + columnAt j)).take 2) ++
          hexColumns prefixLength fuel (i + 16) (text.drop (rowLength prefixLength i))

def decode (text prefix_ : Text) : List UInt8 :=
  (hexColumns prefix_.length text.length 0 text).filterMap decodeColumn

theorem hexValue_digit : ∀ value, value < 16 → hexValue (digit value) = some value := by decide

def hexCell : Option UInt8 → Text
  | some byte => [digit (byte.toNat / 16), digit (byte.toNat % 16)]
  | none => [0x20, 0x20]

theorem hexColumn_cell (data : Span) (i j : Nat) (rest : Text) :
    (hexColumn data i j ++ rest).take 2 = hexCell data.bytes[Span.position i j]? := by
  unfold hexColumn
  cases data.bytes[Span.position i j]? with
  | none => rfl
  | some byte => simp [digits_byte byte.toNat_lt, hexCell]

theorem decodeColumn_hexColumn (data : Span) (i j : Nat) (rest : Text) :
    decodeColumn ((hexColumn data i j ++ rest).take 2) = data.bytes[Span.position i j]? := by
  rw [hexColumn_cell]
  cases data.bytes[Span.position i j]? with
  | none => rfl
  | some byte =>
    have bounded := byte.toNat_lt
    have high := hexValue_digit (byte.toNat / 16) (by omega)
    have low := hexValue_digit (byte.toNat % 16) (by omega)
    have whole : 16 * (byte.toNat / 16) + byte.toNat % 16 = byte.toNat := Nat.div_add_mod _ _
    simp [hexCell, decodeColumn, high, low, whole]

theorem range_split {j n : Nat} (inside : j < n) : ∃ after, List.range n = List.range j ++ j :: after := by
  obtain ⟨more, rfl⟩ := Nat.exists_eq_add_of_lt inside
  exact ⟨_, by rw [Nat.add_right_comm, List.range_add, List.range_succ, List.append_assoc, List.singleton_append]⟩

theorem drop_columns {piece : Nat → Text} {width : Nat}
    (each : ∀ j, (piece j).length = width + if j = 7 then 1 else 0) (before after : Text) {j n : Nat}
    (inside : j < n) :
    ∃ rest, (before ++ ((List.range n).flatMap piece ++ after)).drop
        (before.length + (width * j + if 7 < j then 1 else 0)) = piece j ++ rest := by
  obtain ⟨later, split_⟩ := range_split inside
  have ahead : ((List.range j).flatMap piece).length = width * j + if 7 < j then 1 else 0 :=
    columns_length each j
  rw [split_, List.flatMap_append, List.flatMap_cons, ← List.drop_drop, List.drop_left, List.append_assoc,
    List.drop_left' ahead, List.append_assoc]
  exact ⟨_, rfl⟩

theorem drop_row (data : Span) (prefix_ rest : Text) (i : Nat) {j : Nat} (inside : j < 16) :
    ∃ after, (row data prefix_ i ++ rest).drop (prefix_.length + (offset i).length + 2 + columnAt j) =
      hexColumn data i j ++ after := by
  have start : (prefix_ ++ (offset i ++ colon)).length = prefix_.length + (offset i).length + 2 := by
    simp [colon, Nat.add_assoc]
  have shape : row data prefix_ i ++ rest = (prefix_ ++ (offset i ++ colon)) ++
      ((List.range 16).flatMap (hexColumn data i) ++
        ([0x20, 0x7C] ++ ((List.range 16).flatMap (asciiColumn data i) ++ ([0x7C, 0x0A] ++ rest)))) := by
    simp only [row, List.append_assoc]
  rw [shape, ← start, columnAt]
  exact drop_columns (hexColumn_length data i) _ _ inside

theorem filterMap_getElem? {A : Type} (items : List A) (i n : Nat) :
    (List.range n).filterMap (fun j => items[i + j]?) = (items.drop i).take n := by
  induction n with
  | zero => simp
  | succ n ih =>
    rw [List.range_succ, List.filterMap_append, ih, List.take_add_one, List.getElem?_drop]
    cases found : items[i + n]? <;> simp [found]

theorem decode_row (data : Span) (prefix_ rest : Text) {i : Nat} (inside : i < data.size) :
    ((List.range 16).map fun j => ((row data prefix_ i ++ rest).drop
        (prefix_.length + (offset i).length + 2 + columnAt j)).take 2).filterMap decodeColumn =
      (data.bytes.drop i).take 16 := by
  rw [← filterMap_getElem?, List.filterMap_map]
  apply List.filterMap_congr
  intro j member
  have small := List.mem_range.mp member
  obtain ⟨after, dropped⟩ := drop_row data prefix_ rest i small
  rw [Function.comp_apply, dropped, decodeColumn_hexColumn, Span.position_eq inside (Nat.le_of_lt small)]

theorem decode_rows {data : Span} {prefix_ : Text} {count i fuel : Nat} (counted : rowCount data i = count)
    (enough : (rows data prefix_ count i).length ≤ fuel) :
    (hexColumns prefix_.length fuel i (rows data prefix_ count i)).filterMap decodeColumn =
      data.bytes.drop i := by
  unfold rowCount at counted
  induction count generalizing i fuel with
  | zero =>
    have done : data.bytes.drop i = [] := by
      apply List.drop_of_length_le
      simp only [Span.size] at counted
      omega
    rw [done]
    cases fuel <;> rfl
  | succ count ih =>
    have inside : i < data.size := by omega
    have length := row_length data prefix_ i
    simp only [rows, List.length_append, length, rowLength] at enough
    obtain ⟨fuel, rfl⟩ := Nat.exists_eq_succ_of_ne_zero (by omega : fuel ≠ 0)
    have nonempty : (row data prefix_ i ++ rows data prefix_ count (i + 16)).isEmpty = false := by
      apply List.isEmpty_eq_false_iff.mpr
      intro empty
      have none_ := congrArg List.length empty
      simp [length, rowLength] at none_
    rw [rows, hexColumns, nonempty]
    simp only [Bool.false_eq_true, if_false]
    rw [List.filterMap_append, decode_row data prefix_ _ inside, List.drop_left' length, ih (by omega) (by omega),
      ← List.drop_drop, List.take_append_drop]

theorem dump_lossless (kind : CharKind) :
    (∀ (data : Span) (prefix_ : Text), decode (dumpMemoryToString kind data prefix_) prefix_ = data.bytes) ∧
      ∀ (prefix_ : Text) (data other : Span),
        dumpMemoryToString kind data prefix_ = dumpMemoryToString kind other prefix_ →
          data.bytes = other.bytes := by
  have lossless (data : Span) (prefix_ : Text) :
      decode (dumpMemoryToString kind data prefix_) prefix_ = data.bytes := by
    rw [dumpMemoryToString_rows, decode, decode_rows rfl (Nat.le_refl _), List.drop_zero]
  refine ⟨lossless, fun prefix_ data other same => ?_⟩
  rw [← lossless data prefix_, same, lossless]

end Pirks.MemoryUtils
