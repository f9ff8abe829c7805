import FxmlCodegen.Json.Value

/-!
# JSON values from text

A strict reader: no comments, no trailing commas, no raw control
characters in strings, no leading zeros, and nothing but blanks around
the value. An escape for half a surrogate pair is within the grammar;
where it has no other half the value is `illFormed`. `parse?` is the
only entry point. The grammar below it hands on the rest of the text;
its fuel counts nested calls, and every second one consumes a character,
so twice the length of the text is enough.
-/

namespace FxmlCodegen.Json

namespace Reader

def isSpace (c : Char) : Bool := c = ' ' || c = '\t' || c = '\n' || c = '\r'

def skipSpace (cs : List Char) : List Char := cs.dropWhile isSpace

/-! ## Strings -/

def hexDigit? (c : Char) : Option Nat :=
  if '0' ≤ c && c ≤ '9' then some (c.toNat - '0'.toNat)
  else if 'a' ≤ c && c ≤ 'f' then some (c.toNat - 'a'.toNat + 10)
  else if 'A' ≤ c && c ≤ 'F' then some (c.toNat - 'A'.toNat + 10)
  else none

def hexUnit? (a b c d : Char) : Option Nat := do
  let a ← hexDigit? a
  let b ← hexDigit? b
  let c ← hexDigit? c
  let d ← hexDigit? d
  some (((a * 16 + b) * 16 + c) * 16 + d)

def isHighSurrogate (n : Nat) : Bool := 0xD800 ≤ n && n < 0xDC00

def isLowSurrogate (n : Nat) : Bool := 0xDC00 ≤ n && n < 0xE000

def joinSurrogates (high low : Nat) : Char :=
  Char.ofNat (0x10000 + (high - 0xD800) * 0x400 + (low - 0xDC00))

/-- The character a one-letter escape stands for. -/
def shortEscape? (c : Char) : Option Char :=
  if c = '"' || c = '\\' || c = '/' then some c
  else if c = 'b' then some '\x08'
  else if c = 'f' then some '\x0c'
  else if c = 'n' then some '\n'
  else if c = 'r' then some '\r'
  else if c = 't' then some '\t'
  else none

/-- The units of a string up to its closing quote, put after the
reversed `read`, and the text after that quote. A unit is a code point,
or half a surrogate pair. -/
def stringUnits (read : List Nat) : List Char → Option (List Nat × List Char)
  | [] => none
  | '"' :: rest => some (read.reverse, rest)
  | '\\' :: 'u' :: a :: b :: c :: d :: rest =>
    match hexUnit? a b c d with
    | some unit => stringUnits (unit :: read) rest
    | none => none
  | '\\' :: c :: rest =>
    match shortEscape? c with
    | some c => stringUnits (c.toNat :: read) rest
    | none => none
  | c :: rest =>
    if c = '\\' || c.toNat < 0x20 then none else stringUnits (c.toNat :: read) rest

/-- The characters that units stand for, put after the reversed `read`;
none if half a surrogate pair stands alone. -/
def joinUnits (read : List Char) : List Nat → Option String
  | [] => some (String.ofList read.reverse)
  | high :: low :: units =>
    if isHighSurrogate high && isLowSurrogate low then
      joinUnits (joinSurrogates high low :: read) units
    else if isHighSurrogate high || isLowSurrogate high then none
    else joinUnits (Char.ofNat high :: read) (low :: units)
  | [unit] =>
    if isHighSurrogate unit || isLowSurrogate unit then none
    else some (String.ofList (Char.ofNat unit :: read).reverse)

/-- The text of a string, if it is one, and what comes after it. -/
def stringBody (cs : List Char) : Option (Option String × List Char) :=
  (stringUnits [] cs).map fun (units, rest) => (joinUnits [] units, rest)

def ofText : Option String → Json
  | some s => .str s
  | none => .illFormed

/-- An object, if all its keys are texts. -/
def ofMembers (members : List (Option String × Json)) : Json :=
  match members.mapM fun (key, value) => key.map (·, value) with
  | some fields => .obj fields
  | none => .illFormed

/-! ## Numbers -/

def isDigit (c : Char) : Bool := '0' ≤ c && c ≤ '9'

def digitsToNat (ds : List Char) : Nat :=
  ds.foldl (fun n d => n * 10 + (d.toNat - '0'.toNat)) 0

/-- At least one digit. -/
def digits1 (cs : List Char) : Option (List Char × List Char) :=
  match cs.takeWhile isDigit with
  | [] => none
  | ds => some (ds, cs.dropWhile isDigit)

/-- The digits before the point: a zero alone, or no zero in front. -/
def integerDigits : List Char → Option (List Char × List Char)
  | '0' :: rest => some (['0'], rest)
  | cs => digits1 cs

def fractionDigits : List Char → Option (List Char × List Char)
  | '.' :: rest => digits1 rest
  | cs => some ([], cs)

def exponentDigits (cs : List Char) : Option (Int × List Char) := do
  match cs with
  | '-' :: rest =>
    let (ds, rest) ← digits1 rest
    some (-(digitsToNat ds : Int), rest)
  | '+' :: rest =>
    let (ds, rest) ← digits1 rest
    some (digitsToNat ds, rest)
  | cs =>
    let (ds, rest) ← digits1 cs
    some (digitsToNat ds, rest)

def exponentPart : List Char → Option (Option Int × List Char)
  | 'e' :: rest => (exponentDigits rest).map fun (e, rest) => (some e, rest)
  | 'E' :: rest => (exponentDigits rest).map fun (e, rest) => (some e, rest)
  | cs => some (none, cs)

/-- A number without a sign. -/
def unsignedNumber (cs : List Char) : Option (Json × List Char) := do
  let (whole, rest) ← integerDigits cs
  let (fraction, rest) ← fractionDigits rest
  let (exponent, rest) ← exponentPart rest
  match fraction, exponent with
  | [], none => some (.nat (digitsToNat whole), rest)
  | _, _ =>
    some (.num (digitsToNat (whole ++ fraction)) (exponent.getD 0 - fraction.length), rest)

/-- The number with a minus sign in front. It is not written with digits
alone, even if it is zero. -/
def negative : Json → Json
  | .nat n => .num (-(n : Int)) 0
  | .num m e => .num (-m) e
  | json => json

def number : List Char → Option (Json × List Char)
  | '-' :: cs => (unsignedNumber cs).map fun (n, rest) => (negative n, rest)
  | cs => unsignedNumber cs

/-! ## Values -/

/-- The value if the text starts with this word. -/
def word (w : String) (value : Json) (cs : List Char) : Option (Json × List Char) :=
  if w.toList.isPrefixOf cs then some (value, cs.drop w.length) else none

/-- A key with its colon. -/
def key (cs : List Char) : Option (Option String × List Char) :=
  match skipSpace cs with
  | '"' :: rest => do
    let (name, rest) ← stringBody rest
    match skipSpace rest with
    | ':' :: rest => some (name, rest)
    | _ => none
  | _ => none

mutual

def value : Nat → List Char → Option (Json × List Char)
  | 0, _ => none
  | fuel + 1, cs =>
    match skipSpace cs with
    | '"' :: rest => (stringBody rest).map fun (s, rest) => (ofText s, rest)
    | '[' :: rest =>
      match skipSpace rest with
      | ']' :: rest => some (.arr [], rest)
      | rest => (items fuel rest).map fun (vs, rest) => (.arr vs, rest)
    | '{' :: rest =>
      match skipSpace rest with
      | '}' :: rest => some (.obj [], rest)
      | rest => (members fuel rest).map fun (fs, rest) => (ofMembers fs, rest)
    | 'n' :: rest => word "null" .null ('n' :: rest)
    | 't' :: rest => word "true" (.bool true) ('t' :: rest)
    | 'f' :: rest => word "false" (.bool false) ('f' :: rest)
    | cs => number cs

/-- The items of an array through its closing bracket; at least one. -/
def items : Nat → List Char → Option (List Json × List Char)
  | 0, _ => none
  | fuel + 1, cs => do
    let (v, rest) ← value fuel cs
    match skipSpace rest with
    | ',' :: rest => (items fuel rest).map fun (vs, rest) => (v :: vs, rest)
    | ']' :: rest => some ([v], rest)
    | _ => none

/-- The members of an object through its closing brace; at least one. -/
def members : Nat → List Char → Option (List (Option String × Json) × List Char)
  | 0, _ => none
  | fuel + 1, cs => do
    let (k, rest) ← key cs
    let (v, rest) ← value fuel rest
    match skipSpace rest with
    | ',' :: rest => (members fuel rest).map fun (fs, rest) => ((k, v) :: fs, rest)
    | '}' :: rest => some ([(k, v)], rest)
    | _ => none

end

end Reader

/-- The value a text holds, if it is JSON. -/
def parse? (text : String) : Option Json :=
  let cs := text.toList
  match Reader.value (2 * cs.length + 2) cs with
  | some (value, rest) => if (Reader.skipSpace rest).isEmpty then some value else none
  | none => none

end FxmlCodegen.Json
