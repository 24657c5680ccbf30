import Mathlib.Data.List.Basic
import Mathlib.Tactic.Common

set_option autoImplicit false

structure InputStream where
  rest : List UInt8
  eof : Bool
  fail : Bool

namespace InputStream

def newline : UInt8 := 0x0A

def ofText (text : List UInt8) : InputStream := ⟨text, false, false⟩

-- std::getline takes the newline out of the stream and leaves it out of the line. At the end of the text
-- it fails unless it has read something.
def getline (stream : InputStream) : List UInt8 × InputStream :=
  if stream.eof || stream.fail then ([], { stream with fail := true })
  else
    let line := stream.rest.takeWhile (· ≠ newline)
    match stream.rest.dropWhile (· ≠ newline) with
    | [] => (line, { rest := [], eof := true, fail := line.isEmpty })
    | _ :: rest => (line, { stream with rest })

def remaining (stream : InputStream) : Nat := stream.rest.length + if stream.eof then 0 else 1

theorem getline_remaining (stream : InputStream) (read : stream.getline.2.fail = false) :
    stream.getline.2.remaining < stream.remaining := by
  unfold getline at read ⊢
  split at read
  next => cases read
  next opened =>
    have more : stream.eof = false := by simp_all
    have whole := congrArg List.length (List.takeWhile_append_dropWhile (p := (· ≠ newline)) (l := stream.rest))
    rw [List.length_append] at whole
    rw [if_neg opened]
    split
    next => simp [remaining, more]
    next after found =>
      rw [found, List.length_cons] at whole
      simp [remaining]
      omega

-- while (std::getline(stream, line)): the lines that the body of the loop sees
def lines (stream : InputStream) : List (List UInt8) :=
  if _ : stream.getline.2.fail = false then stream.getline.1 :: lines stream.getline.2 else []
termination_by stream.remaining
decreasing_by
  rename_i read
  exact getline_remaining stream read

theorem getline_line {line : List UInt8} (unbroken : newline ∉ line) (rest : List UInt8) :
    (ofText (line ++ newline :: rest)).getline = (line, ofText rest) := by
  have before : ∀ char ∈ line, (decide (char ≠ newline)) = true := by
    intro char member
    apply decide_eq_true
    rintro rfl
    exact unbroken member
  have taken : (line ++ newline :: rest).takeWhile (· ≠ newline) = line := by
    rw [List.takeWhile_append_of_pos before]
    simp
  have dropped : (line ++ newline :: rest).dropWhile (· ≠ newline) = newline :: rest := by
    rw [List.dropWhile_append_of_pos before]
    simp
  simp only [getline, ofText, taken, dropped, Bool.or_self, Bool.false_eq_true, if_false]

theorem lines_nil : lines (ofText []) = [] := by
  have failed : (ofText []).getline.2.fail = true := rfl
  rw [lines, dif_neg (by simp [failed])]

theorem lines_line {line : List UInt8} (unbroken : newline ∉ line) (rest : List UInt8) :
    lines (ofText (line ++ newline :: rest)) = line :: lines (ofText rest) := by
  have read := getline_line unbroken rest
  rw [lines, dif_pos (by rw [read]; rfl), read]

theorem lines_of_unbroken {texts : List (List UInt8)} (unbroken : ∀ text ∈ texts, newline ∉ text) :
    lines (ofText (texts.flatMap (· ++ [newline]))) = texts := by
  induction texts with
  | nil => exact lines_nil
  | cons text rest ih =>
    rw [List.flatMap_cons, List.append_assoc, List.singleton_append, lines_line (unbroken text (by simp)),
      ih fun other member => unbroken other (by simp [member])]

def Rejoins (text : List UInt8) : Prop := (lines (ofText text)).flatMap (· ++ [newline]) = text

theorem Rejoins.line {line rest : List UInt8} (rejoins : Rejoins rest) (unbroken : newline ∉ line) :
    Rejoins (line ++ newline :: rest) := by
  rw [Rejoins, lines_line unbroken, List.flatMap_cons, rejoins, List.append_assoc, List.singleton_append]

theorem Rejoins.text {text rest : List UInt8} (rejoins : Rejoins rest) : Rejoins (text ++ newline :: rest) := by
  induction length : text.length using Nat.strongRecOn generalizing text with
  | ind count ih =>
    by_cases broken : newline ∈ text
    next =>
      obtain ⟨line, more, rfl, unbroken⟩ := List.eq_append_cons_of_mem broken
      have later : Rejoins (more ++ newline :: rest) := ih more.length (by
        rw [← length, List.length_append, List.length_cons]
        omega) rfl
      simpa using later.line unbroken
    next => exact rejoins.line broken

theorem rejoins_texts (texts : List (List UInt8)) : Rejoins (texts.flatMap (· ++ [newline])) := by
  induction texts with
  | nil => rw [Rejoins, List.flatMap_nil, lines_nil, List.flatMap_nil]
  | cons text rest ih =>
    rw [List.flatMap_cons, List.append_assoc, List.singleton_append]
    exact ih.text

end InputStream
