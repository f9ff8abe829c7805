import FxmlCodegen.Json.Value

/-!
# JSON text from values

The compact text of a value: no blanks, members in order, and only the
characters JSON forbids in a string written as escapes. What is ill
formed is written as half a surrogate pair, which is read back as such.
-/

namespace FxmlCodegen.Json

/-- Two hexadecimal digits. -/
def hexByte (n : Nat) : List Char :=
  [Nat.digitChar (n / 16 % 16), Nat.digitChar (n % 16)]

def escapeChar (c : Char) : List Char :=
  if c = '"' then ['\\', '"']
  else if c = '\\' then ['\\', '\\']
  else if c.toNat < 0x20 then "\\u00".toList ++ hexByte c.toNat
  else [c]

def renderString (s : String) : String :=
  String.ofList ('"' :: (s.toList.flatMap escapeChar ++ ['"']))

def renderNumber (m e : Int) : String := toString m ++ "e" ++ toString e

mutual

def render : Json → String
  | .null => "null"
  | .bool b => if b then "true" else "false"
  | .nat n => toString n
  | .num m e => renderNumber m e
  | .str s => renderString s
  | .illFormed => "\"\\ud800\""
  | .arr items => "[" ++ ",".intercalate (renderItems items) ++ "]"
  | .obj fields => "\x7b" ++ ",".intercalate (renderFields fields) ++ "\x7d"

def renderItems : List Json → List String
  | [] => []
  | item :: items => item.render :: renderItems items

def renderFields : List (String × Json) → List String
  | [] => []
  | (key, value) :: fields => (renderString key ++ ":" ++ value.render) :: renderFields fields

end

end FxmlCodegen.Json
