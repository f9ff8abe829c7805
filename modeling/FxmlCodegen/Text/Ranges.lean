/-!
# Ranges of code points

A character class is given by a list of inclusive code point ranges. The
classes built on this are `isBlank`, `isLowercase`, `isWordChar` and
`isPrintable`.
-/

namespace FxmlCodegen.Text

/-- The code point of `c` lies in one of the ranges. -/
def inRanges (ranges : List (Nat × Nat)) (c : Char) : Bool :=
  ranges.any fun r => r.1 ≤ c.toNat && c.toNat ≤ r.2

end FxmlCodegen.Text
