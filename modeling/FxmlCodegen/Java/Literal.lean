/-!
# Java string literals

The text of a string literal. Only the quote, the backslash and the
three control characters with a short escape are escaped; every other
character stands for itself.
-/

namespace FxmlCodegen.Java

def escapeChar (c : Char) : List Char :=
  if c = '"' then ['\\', '"']
  else if c = '\\' then ['\\', '\\']
  else if c = '\n' then ['\\', 'n']
  else if c = '\r' then ['\\', 'r']
  else if c = '\t' then ['\\', 't']
  else [c]

def stringLiteral (value : String) : String :=
  String.ofList ('"' :: (value.toList.flatMap escapeChar ++ ['"']))

end FxmlCodegen.Java
