import FxmlCodegen.Text.Bytes

/-!
# Bytes shown as text

Bytes are read as UTF-8, whether they are or not. Where they stop making
sense, what has been read of a character becomes one U+FFFD, and so does a
byte that cannot begin a character. Reading then goes on with the byte that
did not fit.
-/

namespace FxmlCodegen.Text

/-- What stands for bytes that are not UTF-8. -/
def replacement : Char := '\uFFFD'

/-- A character of which at least one byte has been read and at least one
is missing. -/
structure Unfinished where
  /-- The bits read so far. -/
  bits : Nat
  /-- How many bytes are missing behind the next one. -/
  more : Nat
  /-- The bounds of the next byte, which keep out longer forms than needed,
  surrogates and numbers past the last character. -/
  least : Nat := 0x80
  greatest : Nat := 0xBF
  least_le : least ≤ greatest := by decide
  least_ge : 0x80 ≤ least := by decide
  greatest_le : greatest ≤ 0xBF := by decide

/-- What has been read since the last character: another one, or part of
it. -/
inductive Progress where
  | whole (c : Char)
  | part (u : Unfinished)

namespace Unfinished

/-- What the first byte of a character leaves to read, if it is one of
several. -/
def ofLead? (b : Nat) : Option Unfinished :=
  if b < 0xC2 then none
  else if b < 0xE0 then some { bits := b - 0xC0, more := 0 }
  else if b < 0xF0 then
    some
      { bits := b - 0xE0, more := 1
        least := if b = 0xE0 then 0xA0 else 0x80
        greatest := if b = 0xED then 0x9F else 0xBF
        least_le := by split <;> split <;> omega
        least_ge := by split <;> decide
        greatest_le := by split <;> decide }
  else if b < 0xF5 then
    some
      { bits := b - 0xF0, more := 2
        least := if b = 0xF0 then 0x90 else 0x80
        greatest := if b = 0xF4 then 0x8F else 0xBF
        least_le := by split <;> split <;> omega
        least_ge := by split <;> decide
        greatest_le := by split <;> decide }
  else none

/-- The next byte adds six bits. -/
def add (u : Unfinished) (b : Nat) : Progress :=
  match u.more with
  | 0 => .whole (Char.ofNat (u.bits * 64 + (b - 0x80)))
  | more + 1 => .part { bits := u.bits * 64 + (b - 0x80), more }

/-- Reads the next byte, if it is within the bounds. -/
def next? (u : Unfinished) (b : Nat) : Option Progress :=
  if u.least ≤ b ∧ b ≤ u.greatest then some (u.add b) else none

end Unfinished

/-- Reads a byte behind an unfinished character or between characters,
unless it does not fit. -/
def accept? : Option Unfinished → UInt8 → Option Progress
  | none, b =>
    if b.toNat < 0x80 then some (.whole (Char.ofNat b.toNat))
    else (Unfinished.ofLead? b.toNat).map .part
  | some u, b => u.next? b.toNat

/-- What is added to the text, and what is left unfinished. -/
def Progress.settle : Progress → List Char × Option Unfinished
  | .whole c => ([c], none)
  | .part u => ([], some u)

/-- The same of a byte between characters. -/
def readFirst (b : UInt8) : List Char × Option Unfinished :=
  match accept? none b with
  | some progress => progress.settle
  | none => ([replacement], none)

/-- The same of any byte. One that does not belong to an unfinished
character ends it and is read anew. -/
def readByte (state : Option Unfinished) (b : UInt8) : List Char × Option Unfinished :=
  match accept? state b with
  | some progress => progress.settle
  | none =>
    if state.isSome then (replacement :: (readFirst b).1, (readFirst b).2) else readFirst b

/-- The text of the bytes behind an unfinished character, or none. -/
def decodeFrom (state : Option Unfinished) : List UInt8 → List Char
  | [] => if state.isSome then [replacement] else []
  | b :: bs => (readByte state b).1 ++ decodeFrom (readByte state b).2 bs

/-- The text that the bytes are shown as. -/
def lossy (bs : List UInt8) : String := String.ofList (decodeFrom none bs)

/-! ## Reading one byte -/

section

variable {state : Option Unfinished} {u : Unfinished} {b : UInt8} (bs : List UInt8)

theorem decodeFrom_whole {c : Char} (h : accept? state b = some (.whole c)) :
    decodeFrom state (b :: bs) = c :: decodeFrom none bs := by
  have hread : readByte state b = ([c], none) := by
    unfold readByte
    rw [h]
    rfl
  rw [decodeFrom, hread]
  rfl

theorem decodeFrom_part (h : accept? state b = some (.part u)) :
    decodeFrom state (b :: bs) = decodeFrom (some u) bs := by
  have hread : readByte state b = ([], some u) := by
    unfold readByte
    rw [h]
    rfl
  rw [decodeFrom, hread]
  rfl

theorem decodeFrom_misfit (h : accept? none b = none) :
    decodeFrom none (b :: bs) = replacement :: decodeFrom none bs := by
  have hread : readByte none b = ([replacement], none) := by
    unfold readByte readFirst
    rw [h]
    rfl
  rw [decodeFrom, hread]
  rfl

theorem readByte_none (b : UInt8) : readByte none b = readFirst b := by
  unfold readByte readFirst
  cases accept? none b with
  | none => rfl
  | some progress => rfl

theorem decodeFrom_ended (h : accept? (some u) b = none) :
    decodeFrom (some u) (b :: bs) = replacement :: decodeFrom none (b :: bs) := by
  have hread : readByte (some u) b = (replacement :: (readFirst b).1, (readFirst b).2) := by
    unfold readByte
    rw [h]
    rfl
  rw [decodeFrom, hread, decodeFrom, readByte_none]
  rfl

end

end FxmlCodegen.Text
