import FxmlCodegen.Text.LetterCase
import FxmlCodegen.Text.Split

/-!
# Fresh names

A variable name made from a seed such as `javafx.scene.control.Label`:
the part after the last dot, first letter in lower case, with the least
number behind it that makes it free. The search strikes out the taken
candidates it meets, so it ends after as many steps as there are taken
names.
-/

namespace FxmlCodegen

/-- The name a seed stands for while it is free. -/
def baseName (seed : String) : String := Text.lowerFirst (Text.localName seed)

/-- The candidates for a base name, in order: the name itself, then with
1, 2, ... behind it. -/
def candidate (base : String) : Nat → String
  | 0 => base
  | k + 1 => base ++ toString (k + 1)

/-- The name is a base name with nothing but digits behind it, as every
candidate is. -/
def isRival (base name : String) : Bool :=
  Text.startsWith base name && (name.toList.drop base.toList.length).all Char.isDigit

theorem isRival_candidate (base : String) (k : Nat) : isRival base (candidate base k) = true := by
  cases k with
  | zero => simp [isRival, candidate, Text.startsWith]
  | succ k =>
      simp only [isRival, candidate, Text.startsWith, String.toList_append, Bool.and_eq_true,
        List.isPrefixOf_iff_prefix, List.prefix_append, List.drop_left, List.all_eq_true, true_and]
      intro c hc
      rw [Nat.toString_eq_ofList_toDigits, String.toList_ofList] at hc
      exact Nat.isDigit_of_mem_toDigits (by decide) (by decide) hc

/-- The least `k` from the given one on whose candidate is not among the
rivals; `steps` bounds how many of them are. -/
def leastFree (base : String) (rivals : List String) : (steps k : Nat) → Nat
  | 0, k => k
  | steps + 1, k =>
    if rivals.contains (candidate base k) then
      leastFree base (rivals.erase (candidate base k)) steps (k + 1)
    else
      k

/-- The first candidate that is not taken. Only rivals can be candidates,
and the earliest taken are met first.

The number behind the name is a natural number of any size. A counter of 32
bits would give the same names as long as fewer than `2 ^ 31 - 1` candidates are
taken. -/
def freshName (taken : List String) (seed : String) : String :=
  let base := baseName seed
  let rivals := (taken.filter (isRival base)).reverse
  candidate base (leastFree base rivals rivals.length 0)

end FxmlCodegen
