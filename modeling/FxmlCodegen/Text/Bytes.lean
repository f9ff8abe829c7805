/-!
# Bytes of text

Positions in messages count bytes of UTF-8, and a message about a
single byte shows that byte as a character. File names are bytes.
Everything else in this library counts characters.
-/

namespace FxmlCodegen.Text

/-- The UTF-8 form of a text. -/
def bytes (s : String) : List UInt8 := s.toUTF8.data.toList

/-- How many bytes the text takes in UTF-8. -/
def byteLength (cs : List Char) : Nat := cs.foldr (fun c n => c.utf8Size + n) 0

/-- The first byte of the character's UTF-8 form. -/
def leadByte (c : Char) : Nat :=
  let n := c.toNat
  if n < 0x80 then n
  else if n < 0x800 then 0xC0 + n / 0x40
  else if n < 0x10000 then 0xE0 + n / 0x1000
  else 0xF0 + n / 0x40000

/-- The first byte of the character, shown as the character with that
code point. -/
def leadByteChar (c : Char) : Char := Char.ofNat (leadByte c)

end FxmlCodegen.Text
