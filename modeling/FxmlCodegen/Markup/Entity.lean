import FxmlCodegen.Markup.Fault
import FxmlCodegen.Text.Bytes

/-!
# Entity references

Attribute values with their entity references replaced: the five names
of XML, and characters by decimal or hexadecimal number. Nothing else in
a value is changed, blanks and line ends included.
-/

namespace FxmlCodegen.Markup.Entity

/-- The characters with a name. -/
def named : List (String × Char) :=
  [("lt", '<'), ("gt", '>'), ("amp", '&'), ("apos", '\''), ("quot", '"')]

/-! ## Numbers -/

def decimalDigit? (c : Char) : Option Nat :=
  if '0' ≤ c && c ≤ '9' then some (c.toNat - '0'.toNat) else none

def hexadecimalDigit? (c : Char) : Option Nat :=
  if '0' ≤ c && c ≤ '9' then some (c.toNat - '0'.toNat)
  else if 'a' ≤ c && c ≤ 'f' then some (c.toNat - 'a'.toNat + 10)
  else if 'A' ≤ c && c ≤ 'F' then some (c.toNat - 'A'.toNat + 10)
  else none

/-- The number the digits spell after `value`, or the first character
that is no digit. -/
def digits (base : Nat) (digit? : Char → Option Nat) (value : Nat) : List Char → Except Char Nat
  | [] => .ok value
  | c :: cs =>
    match digit? c with
    | some d => digits base digit? (value * base + d) cs
    | none => .error c

/-- The code point a reference spells after the `#`. -/
def codePoint : List Char → Except EntityFault Nat
  | 'x' :: cs =>
    if 6 < Text.byteLength cs then .error .longHexadecimal
    else (digits 16 hexadecimalDigit? 0 cs).mapError fun c => .badHexadecimal (Text.leadByteChar c)
  | cs =>
    if 7 < Text.byteLength cs then .error .longDecimal
    else (digits 10 decimalDigit? 0 cs).mapError fun c => .badDecimal (Text.leadByteChar c)

/-! ## References -/

/-- The character of the reference that takes bytes `first` up to the
semicolon at `last`. -/
def resolve (first last : Nat) : List Char → Except EntityFault Char
  | '#' :: number => do
    let n ← codePoint number
    if n = 0 then throw (.zero first last)
    else if n.isValidChar then return Char.ofNat n
    else throw (.noCharacter n)
  | name =>
    match named.lookup (String.ofList name) with
    | some c => .ok c
    | none => .error (.unknown (first + 1) last (String.ofList name))

mutual

/-- The value of the text at byte `pos` of a value of `total` bytes. -/
def decodeText (total pos : Nat) : List Char → Except EntityFault (List Char)
  | [] => .ok []
  | c :: cs =>
    if c = '&' then
      decodeReference total pos (pos + 1) [] cs
    else do
      let rest ← decodeText total (pos + c.utf8Size) cs
      return c :: rest

/-- The same inside the reference that starts at byte `first`, after the
reversed `name`. -/
def decodeReference (total first pos : Nat) (name : List Char) :
    List Char → Except EntityFault (List Char)
  | [] => .error (.unterminated first total)
  | c :: cs =>
    if c = '&' then
      .error (.unterminated first total)
    else if c = ';' then do
      let d ← resolve first pos name.reverse
      let rest ← decodeText total (pos + 1) cs
      return d :: rest
    else
      decodeReference total first (pos + c.utf8Size) (c :: name) cs

end

/-- A raw value with its references replaced. -/
def decode (raw : List Char) : Except EntityFault String :=
  (decodeText (Text.byteLength raw) 0 raw).map String.ofList

end FxmlCodegen.Markup.Entity
