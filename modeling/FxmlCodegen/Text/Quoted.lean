import FxmlCodegen.Text.Printable

/-!
# Quoted text

A text between double quotes in which every character is visible. Used
where a message repeats a piece of the input.
-/

namespace FxmlCodegen.Text

def quotedChar (c : Char) : List Char :=
  if c = '"' then ['\\', '"']
  else if c = '\\' then ['\\', '\\']
  else if c = '\t' then ['\\', 't']
  else if c = '\n' then ['\\', 'n']
  else if c = '\r' then ['\\', 'r']
  else if c = '\x00' then ['\\', '0']
  else if isPrintable c then [c]
  else "\\u\x7b".toList ++ Nat.toDigits 16 c.toNat ++ ['}']

/-- The text in double quotes; what has no glyph of its own is written
as its code point. -/
def quoted (s : String) : String :=
  String.ofList ('"' :: (s.toList.flatMap quotedChar ++ ['"']))

end FxmlCodegen.Text
