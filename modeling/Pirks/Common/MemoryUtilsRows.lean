import Pirks.Common.MemoryUtils
import Pirks.Foundation.InputStream

set_option autoImplicit false

namespace Pirks.MemoryUtils

open OutputStream
open InputStream (newline)

def rowText (data : Span) (prefix_ : Text) (i : Nat) : Text :=
  prefix_ ++ (offset i ++ colon ++ ((List.range 16).flatMap (hexColumn data i) ++
    ([0x20, 0x7C] ++ ((List.range 16).flatMap (asciiColumn data i) ++ [0x7C]))))

def rowTexts (data : Span) (prefix_ : Text) : List Text :=
  (List.range (rowCount data 0)).map fun r => rowText data prefix_ (16 * r)

theorem row_eq (data : Span) (prefix_ : Text) (i : Nat) :
    row data prefix_ i = rowText data prefix_ i ++ [newline] := by
  simp [row, rowText, newline]

theorem rows_eq (data : Span) (prefix_ : Text) (count i : Nat) :
    rows data prefix_ count i = (List.range count).flatMap fun r => row data prefix_ (i + 16 * r) := by
  induction count generalizing i with
  | zero => rfl
  | succ count ih =>
    rw [rows, ih, List.range_succ_eq_map, List.flatMap_cons, List.flatMap_map]
    congr 1
    apply List.flatMap_congr
    intro r _
    congr 1
    omega

theorem dump_rowTexts (kind : CharKind) (data : Span) (prefix_ : Text) :
    dumpMemoryToString kind data prefix_ = (rowTexts data prefix_).flatMap (· ++ [newline]) := by
  rw [dumpMemoryToString_rows, rows_eq, rowTexts, List.flatMap_map]
  apply List.flatMap_congr
  intro r _
  rw [row_eq, Nat.zero_add]

theorem asciiColumn_cell (data : Span) (i j : Nat) (rest : Text) :
    (asciiColumn data i j ++ rest)[0]? = some (asciiCell data.bytes[Span.position i j]?) := by
  unfold asciiColumn
  rfl

theorem rowText_hex (data : Span) (prefix_ : Text) (i : Nat) {j : Nat} (inside : j < 16) :
    ((rowText data prefix_ i).drop (prefix_.length + (offset i).length + 2 + columnAt j)).take 2 =
      hexCell data.bytes[Span.position i j]? := by
  have start : (prefix_ ++ (offset i ++ colon)).length = prefix_.length + (offset i).length + 2 := by
    simp [colon, Nat.add_assoc]
  obtain ⟨rest, dropped⟩ := drop_columns (hexColumn_length data i) (prefix_ ++ (offset i ++ colon))
    ([0x20, 0x7C] ++ ((List.range 16).flatMap (asciiColumn data i) ++ [0x7C])) inside
  rw [start, List.append_assoc] at dropped
  rw [rowText, columnAt, dropped, hexColumn_cell]

theorem rowText_ascii (data : Span) (prefix_ : Text) (i : Nat) {j : Nat} (inside : j < 16) :
    (rowText data prefix_ i)[prefix_.length + (offset i).length + 53 + (j + if 7 < j then 1 else 0)]? =
      some (asciiCell data.bytes[Span.position i j]?) := by
  have start : (prefix_ ++ (offset i ++ colon ++ ((List.range 16).flatMap (hexColumn data i) ++
      [0x20, 0x7C]))).length = prefix_.length + (offset i).length + 53 := by
    simp only [List.length_append, columns_length (hexColumn_length data i)]
    simp [colon, Nat.add_assoc]
  obtain ⟨rest, dropped⟩ := drop_columns (asciiColumn_length data i)
    (prefix_ ++ (offset i ++ colon ++ ((List.range 16).flatMap (hexColumn data i) ++ [0x20, 0x7C])))
    [0x7C] inside
  have shape : rowText data prefix_ i =
      (prefix_ ++ (offset i ++ colon ++ ((List.range 16).flatMap (hexColumn data i) ++ [0x20, 0x7C]))) ++
        ((List.range 16).flatMap (asciiColumn data i) ++ [0x7C]) := by
    simp [rowText]
  rw [start, Nat.one_mul, ← shape] at dropped
  have found := asciiColumn_cell data i j rest
  rw [← dropped, List.getElem?_drop] at found
  exact found

theorem blank_graphic : ∀ char ∈ blank, Graphic char := by
  intro char member
  rw [List.mem_singleton.mp member]
  exact ⟨by decide, by decide⟩

theorem trailing_graphic {j : Nat} {char : UInt8} (member : char ∈ if j = 7 then blank else []) :
    Graphic char := by
  split at member
  next => exact blank_graphic char member
  next => cases member

theorem hexColumn_graphic (data : Span) (i j : Nat) : ∀ char ∈ hexColumn data i j, Graphic char := by
  intro char member
  unfold hexColumn at member
  rcases List.mem_append.mp member with cell | gap
  · split at cell
    next byte _ =>
      rcases List.mem_append.mp cell with pair | space
      · exact padded_graphic (digit_graphic 0 (by decide)) (digits_graphic byte.toNat) char pair
      · exact blank_graphic char space
    next =>
      have space : char = 0x20 := by simpa using cell
      exact blank_graphic char (List.mem_singleton.mpr space)
  · exact trailing_graphic gap

theorem asciiCell_graphic (byte : Option UInt8) : Graphic (asciiCell byte) := by
  cases byte with
  | none => exact ⟨by decide, by decide⟩
  | some byte =>
    rw [asciiCell]
    split
    next within => exact within
    next => exact ⟨by decide, by decide⟩

theorem asciiColumn_graphic (data : Span) (i j : Nat) : ∀ char ∈ asciiColumn data i j, Graphic char := by
  intro char member
  rcases List.mem_cons.mp member with rfl | gap
  · exact asciiCell_graphic _
  · exact trailing_graphic gap

theorem rowText_graphic (data : Span) (prefix_ : Text) (i : Nat) :
    ∀ char ∈ (rowText data prefix_ i).drop prefix_.length, Graphic char := by
  intro char member
  rw [rowText, List.drop_left] at member
  simp only [List.mem_append, List.mem_flatMap] at member
  have bar (known : char ∈ colon ∨ char ∈ [0x20, 0x7C] ∨ char ∈ [0x7C]) : Graphic char := by
    simp only [colon, List.mem_cons, List.not_mem_nil, or_false] at known
    rcases known with (rfl | rfl) | (rfl | rfl) | rfl <;> exact ⟨by decide, by decide⟩
  rcases member with (digits_ | colon_) | ⟨j, _, cell⟩ | gap | ⟨j, _, cell⟩ | last
  · exact padded_graphic (digit_graphic 0 (by decide)) (digits_graphic i) char digits_
  · exact bar (.inl colon_)
  · exact hexColumn_graphic data i j char cell
  · exact bar (.inr (.inl gap))
  · exact asciiColumn_graphic data i j char cell
  · exact bar (.inr (.inr last))

theorem newline_not_graphic : ¬Graphic newline := by
  rintro ⟨low, _⟩
  exact absurd low (by decide)

theorem rowText_unbroken (data : Span) {prefix_ : Text} (unbroken : newline ∉ prefix_) (i : Nat) :
    newline ∉ rowText data prefix_ i := by
  intro member
  have start : (rowText data prefix_ i).take prefix_.length = prefix_ := by
    rw [rowText, List.take_left]
  rw [← List.take_append_drop prefix_.length (rowText data prefix_ i), start] at member
  rcases List.mem_append.mp member with early | late
  · exact unbroken early
  · exact newline_not_graphic (rowText_graphic data prefix_ i newline late)

structure RowLayout (data : Span) (prefix_ : Text) (r : Nat) (text : Text) : Prop where
  length : text.length = prefix_.length + 79
  start : text.take (prefix_.length + 10) = prefix_ ++ (fixedDigits 8 (16 * r) ++ colon)
  hex : ∀ j < 16, (text.drop (prefix_.length + 10 + 3 * j + if 8 ≤ j then 1 else 0)).take 2 =
    hexCell data.bytes[16 * r + j]?
  ascii : ∀ j < 16, text[prefix_.length + 61 + j + if 8 ≤ j then 1 else 0]? =
    some (asciiCell data.bytes[16 * r + j]?)
  graphic : ∀ char ∈ text.drop prefix_.length, Graphic char
  unbroken : newline ∉ text

theorem offset_eq {i : Nat} (small : i < 0x100000000) : offset i = fixedDigits 8 i := padded_digits small

theorem rowText_layout {data : Span} {prefix_ : Text} (small : data.size ≤ 0x100000000)
    (unbroken : newline ∉ prefix_) {r : Nat} (inside : 16 * r < data.size) :
    RowLayout data prefix_ r (rowText data prefix_ (16 * r)) := by
  have offset_ := offset_eq (by omega : 16 * r < 0x100000000)
  have eight : (offset (16 * r)).length = 8 := by rw [offset_, fixedDigits_length]
  have place {j : Nat} (below : j < 16) : Span.position (16 * r) j = 16 * r + j :=
    Span.position_eq inside (Nat.le_of_lt below)
  constructor
  · have whole := row_length data prefix_ (16 * r)
    rw [row_eq, List.length_append, List.length_singleton, rowLength, eight] at whole
    omega
  · rw [rowText, ← List.append_assoc, offset_]
    apply List.take_left'
    simp [fixedDigits_length, colon]
  · intro j below
    have cell := rowText_hex data prefix_ (16 * r) below
    rw [place below, eight, columnAt] at cell
    rw [← cell]
    congr 2
    split <;> split <;> omega
  · intro j below
    have cell := rowText_ascii data prefix_ (16 * r) below
    rw [place below, eight] at cell
    rw [← cell]
    congr 1
    split <;> split <;> omega
  · exact rowText_graphic data prefix_ (16 * r)
  · exact rowText_unbroken data unbroken (16 * r)

theorem dump_geometry (kind : CharKind) (data : Span) (prefix_ : Text) (small : data.size ≤ 0x100000000)
    (unbroken : newline ∉ prefix_) :
    ∃ texts : List Text, dumpMemoryToString kind data prefix_ = texts.flatMap (· ++ [newline]) ∧
      texts.length = (data.size + 15) / 16 ∧
      ∀ r text, texts[r]? = some text → RowLayout data prefix_ r text := by
  refine ⟨rowTexts data prefix_, ?_, ?_, ?_⟩
  · exact dump_rowTexts kind data prefix_
  · rw [rowTexts, List.length_map, List.length_range, rowCount, Nat.sub_zero]
  · intro r text found
    rw [rowTexts, List.getElem?_map] at found
    obtain ⟨r', counted, rfl⟩ := Option.map_eq_some_iff.mp found
    obtain ⟨below, same⟩ := List.getElem?_eq_some_iff.mp counted
    rw [List.getElem_range] at same
    subst same
    rw [List.length_range, rowCount] at below
    exact rowText_layout small unbroken (by omega)

theorem dump_geometry_hello :
    ∃ texts : List Text,
      dumpMemoryToString .signed ⟨[0x48, 0x65, 0x6C, 0x6C, 0x6F, 0x0A, 0xFF], by decide⟩ [0x23] =
        texts.flatMap (· ++ [newline]) ∧
      texts.length = 1 ∧
      ∀ r text, texts[r]? = some text →
        RowLayout ⟨[0x48, 0x65, 0x6C, 0x6C, 0x6F, 0x0A, 0xFF], by decide⟩ [0x23] r text :=
  dump_geometry .signed _ _ (by decide) (by decide)

end Pirks.MemoryUtils
