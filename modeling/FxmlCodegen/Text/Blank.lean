import FxmlCodegen.Text.Ranges

/-!
# Blank characters

The Unicode property `White_Space`, and removal of blanks at both ends
of a text. Instructions are trimmed and split by this class. Markup has
a narrower notion of its own, four ASCII characters, which lives with
the reader.
-/

namespace FxmlCodegen.Text

def blankRanges : List (Nat × Nat) := [
  (0x9, 0xD), (0x20, 0x20), (0x85, 0x85), (0xA0, 0xA0), (0x1680, 0x1680),
  (0x2000, 0x200A), (0x2028, 0x2029), (0x202F, 0x202F), (0x205F, 0x205F), (0x3000, 0x3000)]

def isBlank (c : Char) : Bool := inRanges blankRanges c

/-- The text without the blanks at its two ends. -/
def trim (cs : List Char) : List Char :=
  ((cs.dropWhile isBlank).reverse.dropWhile isBlank).reverse

end FxmlCodegen.Text
