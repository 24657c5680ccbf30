import Mathlib.Data.List.Basic

set_option autoImplicit false

/-- What formatted output to a std::ostream reads and changes. The base and the fill character stay set;
the width goes back to zero with every output. -/
structure OutputStream where
  text : List UInt8
  base : Nat
  width : Nat
  fill : UInt8

namespace OutputStream

-- A new stream is decimal and fills with blanks.
def initial : OutputStream := ⟨[], 10, 0, 32⟩

structure Plain (stream : OutputStream) : Prop where
  decimal : stream.base = 10
  unpadded : stream.width = 0
  blanks : stream.fill = 32

def append (chars : List UInt8) (stream : OutputStream) : OutputStream :=
  { stream with text := stream.text ++ chars }

theorem Plain.append {stream : OutputStream} (plain : stream.Plain) (chars : List UInt8) :
    (stream.append chars).Plain := ⟨plain.decimal, plain.unpadded, plain.blanks⟩

theorem append_append (stream : OutputStream) (chars more : List UInt8) :
    (stream.append chars).append more = stream.append (chars ++ more) := by
  simp [OutputStream.append, List.append_assoc]

def hex (stream : OutputStream) : OutputStream := { stream with base := 16 }

def setw (width : Nat) (stream : OutputStream) : OutputStream := { stream with width }

def setfill (fill : UInt8) (stream : OutputStream) : OutputStream := { stream with fill }

def padded (fill : UInt8) (width : Nat) (chars : List UInt8) : List UInt8 :=
  List.replicate (width - chars.length) fill ++ chars

-- Text or a single character
def put (chars : List UInt8) (stream : OutputStream) : OutputStream :=
  { stream with text := stream.text ++ padded stream.fill stream.width chars, width := 0 }

theorem Plain.put_eq {stream : OutputStream} (plain : stream.Plain) (chars : List UInt8) :
    stream.put chars = stream.append chars := by
  have unpadded := plain.unpadded
  simp [put, OutputStream.append, padded, unpadded]

def digit (value : Nat) : UInt8 := value.digitChar.toUInt8

def digits (base value : Nat) : List UInt8 := (Nat.toDigits base value).map fun char => char.toUInt8

def putNumber (value : Nat) (stream : OutputStream) : OutputStream := stream.put (digits stream.base value)

/-- `operator<<` of a type: with the formatting of a new stream it appends the rendering of the value, and
the formatting stays as it is. -/
structure Insertion (A : Type) where
  render : A → List UInt8
  insert : A → OutputStream → OutputStream
  inserts : ∀ value stream, Plain stream → insert value stream = stream.append (render value)

def Insertion.natural : Insertion Nat where
  render := digits 10
  insert := putNumber
  inserts := by
    intro value stream plain
    rw [putNumber, plain.decimal, plain.put_eq]

def fixedDigits : Nat → Nat → List UInt8
  | 0, _ => []
  | width + 1, value => fixedDigits width (value / 16) ++ [digit (value % 16)]

def hexLimit : Nat → Nat
  | 0 => 1
  | width + 1 => 16 * hexLimit width

theorem fixedDigits_zero (width : Nat) : fixedDigits width 0 = List.replicate width (digit 0) := by
  induction width with
  | zero => rfl
  | succ width ih => rw [fixedDigits, Nat.zero_div, ih, List.replicate_succ']

theorem fixedDigits_length (width value : Nat) : (fixedDigits width value).length = width := by
  induction width generalizing value with
  | zero => rfl
  | succ width ih => rw [fixedDigits, List.length_append, ih, List.length_singleton]

theorem padded_snoc (fill last : UInt8) (width : Nat) (chars : List UInt8) :
    padded fill (width + 1) (chars ++ [last]) = padded fill width chars ++ [last] := by
  simp [padded, Nat.add_sub_add_right]

theorem digits_low {value : Nat} (low : value < 16) : digits 16 value = [digit value] := by
  simp [digits, Nat.toDigits_of_lt_base low, digit]

theorem digits_high {value : Nat} (high : 16 ≤ value) :
    digits 16 value = digits 16 (value / 16) ++ [digit (value % 16)] := by
  simp [digits, Nat.toDigits_of_base_le (by decide : 1 < 16) high, digit]

theorem padded_digits {width value : Nat} (small : value < hexLimit (width + 1)) :
    padded (digit 0) (width + 1) (digits 16 value) = fixedDigits (width + 1) value := by
  induction width generalizing value with
  | zero =>
    have low : value < 16 := small
    rw [digits_low low]
    simp [padded, fixedDigits, Nat.mod_eq_of_lt low]
  | succ width ih =>
    by_cases low : value < 16
    next =>
      have empty : padded (digit 0) (width + 1) [] = List.replicate (width + 1) (digit 0) := by
        simp [padded]
      rw [digits_low low, fixedDigits, Nat.div_eq_of_lt low, Nat.mod_eq_of_lt low, fixedDigits_zero, ← empty]
      exact padded_snoc (digit 0) (digit value) (width + 1) []
    next =>
      have less : value / 16 < hexLimit (width + 1) := Nat.div_lt_of_lt_mul small
      rw [digits_high (Nat.le_of_not_lt low), padded_snoc, ih less]
      rfl

theorem digits_byte {value : Nat} (byte : value < 256) :
    padded (digit 0) 2 (digits 16 value) = [digit (value / 16), digit (value % 16)] := by
  have high : value / 16 % 16 = value / 16 := Nat.mod_eq_of_lt (by omega)
  have two_digits : padded (digit 0) 2 (digits 16 value) = fixedDigits 2 value := padded_digits byte
  rw [two_digits, fixedDigits, fixedDigits, fixedDigits, high]
  rfl

def Graphic (char : UInt8) : Prop := 32 ≤ char ∧ char ≤ 126

theorem digit_graphic : ∀ value, value < 16 → Graphic (digit value) := by
  unfold Graphic
  decide

theorem digits_graphic (value : Nat) : ∀ char ∈ digits 16 value, Graphic char := by
  induction value using Nat.strongRecOn with
  | ind value ih =>
    intro char member
    by_cases low : value < 16
    next =>
      rw [digits_low low, List.mem_singleton] at member
      rw [member]
      exact digit_graphic value low
    next =>
      rw [digits_high (Nat.le_of_not_lt low), List.mem_append, List.mem_singleton] at member
      rcases member with earlier | last
      · exact ih (value / 16) (by omega) char earlier
      · rw [last]
        exact digit_graphic _ (Nat.mod_lt _ (by decide))

theorem padded_graphic {fill : UInt8} {width : Nat} {chars : List UInt8} (filled : Graphic fill)
    (graphic : ∀ char ∈ chars, Graphic char) : ∀ char ∈ padded fill width chars, Graphic char := by
  intro char member
  rcases List.mem_append.mp member with before | after
  · rw [List.eq_of_mem_replicate before]
    exact filled
  · exact graphic char after

def Writes (output : OutputStream → OutputStream) (piece : List UInt8) : Prop :=
  ∀ stream, stream.width = 0 → (output stream).text = stream.text ++ piece ∧ (output stream).width = 0

theorem writes_put (chars : List UInt8) : Writes (put chars) chars := by
  intro stream unpadded
  simp [put, padded, unpadded]

theorem writes_hex (width : Nat) (fill : UInt8) (value : Nat) :
    Writes (fun stream => ((stream.hex.setw width).setfill fill).putNumber value)
      (padded fill width (digits 16 value)) := by
  intro stream _
  exact ⟨rfl, rfl⟩

theorem Writes.followed_by {first second : OutputStream → OutputStream} {piece more : List UInt8}
    (before : Writes first piece) (after : Writes second more) :
    Writes (fun stream => second (first stream)) (piece ++ more) := by
  intro stream unpadded
  obtain ⟨wrote, reset⟩ := before stream unpadded
  obtain ⟨added, ended⟩ := after (first stream) reset
  exact ⟨by rw [added, wrote, List.append_assoc], ended⟩

theorem Writes.loop {body : Nat → OutputStream → OutputStream} {piece : Nat → List UInt8}
    (each : ∀ i, Writes (body i) (piece i)) (indices : List Nat) :
    Writes (fun stream => indices.foldl (fun stream i => body i stream) stream) (indices.flatMap piece) := by
  induction indices with
  | nil => exact fun stream unpadded => ⟨(List.append_nil _).symm, unpadded⟩
  | cons i rest ih => exact (each i).followed_by ih

end OutputStream
