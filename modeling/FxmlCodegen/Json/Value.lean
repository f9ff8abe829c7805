import FxmlCodegen.Json.Double

/-!
# JSON values

The value type every codec of this library reads and writes. An object
is the list of its members as written: order and repeated keys stay
visible, so that a codec can refuse a field given twice.
-/

namespace FxmlCodegen

/-- A JSON value. -/
inductive Json where
  | null
  | bool (value : Bool)
  /-- A number written with digits alone. -/
  | nat (value : Nat)
  /-- Any other number, `mantissa * 10 ^ exponent`. -/
  | num (mantissa exponent : Int)
  | str (value : String)
  /-- A string with half a surrogate pair, or an object with such a key.
  A text may hold it where nothing reads it; it stands for no value. -/
  | illFormed
  | arr (items : List Json)
  | obj (fields : List (String × Json))
  deriving Inhabited

namespace Json

/-- A string, or `null` for no string. -/
def ofString? : Option String → Json
  | some s => .str s
  | none => .null

def strings (ss : List String) : Json := .arr (ss.map .str)

def toNat? : Json → Option Nat
  | .nat n => some n
  | _ => none

/-! ## Nesting and range -/

mutual

/-- Containers are nested at most `depth` deep, every number is read as a
finite double, and every string is a text. -/
def isBounded (depth : Nat) : Json → Bool
  | .null => true
  | .bool _ => true
  | .nat n => Double.isFinite n 0
  | .num m e => Double.isFinite m.natAbs e
  | .str _ => true
  | .illFormed => false
  | .arr items =>
    match depth with
    | 0 => false
    | d + 1 => allBounded d items
  | .obj fields =>
    match depth with
    | 0 => false
    | d + 1 => fieldsBounded d fields

def allBounded (depth : Nat) : List Json → Bool
  | [] => true
  | item :: items => item.isBounded depth && allBounded depth items

def fieldsBounded (depth : Nat) : List (String × Json) → Bool
  | [] => true
  | (_, value) :: fields => value.isBounded depth && fieldsBounded depth fields

end

end Json

end FxmlCodegen
