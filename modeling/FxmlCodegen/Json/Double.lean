/-!
# The range of doubles

Whether a number in a text is read as a finite double. Three things are
rounded on the way: the leading digits, as many as 64 bits hold, the
power of ten that goes with them, and the product of the two. So close
to the largest double the verdict is not that of the exact value. Every
double met here is a natural number.
-/

namespace FxmlCodegen.Json.Double

/-- The nearest number of 53 binary digits; of two equally near ones the
even one. -/
def round (n : Nat) : Nat :=
  let unit := Nat.pow 2 (n.log2 - 52)
  let below := n / unit
  let rest := n % unit
  if 2 * rest < unit || (2 * rest == unit && below % 2 == 0) then below * unit
  else (below + 1) * unit

/-- The longest run of leading digits that 64 bits hold, and how many
digits come after it. -/
def leadingDigits (n : Nat) : Nat × Nat :=
  if n ≤ 0xFFFF_FFFF_FFFF_FFFF then (n, 0)
  else ((leadingDigits (n / 10)).1, (leadingDigits (n / 10)).2 + 1)
termination_by n
decreasing_by all_goals omega

/-- The greatest power of ten that is a double. -/
def maxPower : Nat := 308

/-- The number `n * 10 ^ e` is read as a finite double. -/
def isFinite (n : Nat) (e : Int) : Bool :=
  let (digits, dropped) := leadingDigits n
  let power := e + dropped
  if digits = 0 || power < 0 then true
  else if power > maxPower then false
  else round (round digits * round (Nat.pow 10 power.toNat)) < Nat.pow 2 1024

end FxmlCodegen.Json.Double
