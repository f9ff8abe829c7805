/-!
# Searching text

The first occurrence of a pattern, or the first character at which a
small machine stops, with what stands before and after. The lemmas say
that what stands after is shorter, which is why readers that go on with
it end.
-/

namespace FxmlCodegen.Text

/-- What stands before and after the first occurrence of a pattern. -/
def cutFirst (pattern : List Char) : List Char → Option (List Char × List Char)
  | [] => none
  | c :: cs =>
    if pattern.isPrefixOf (c :: cs) then
      some ([], (c :: cs).drop pattern.length)
    else
      match cutFirst pattern cs with
      | some (before, after) => some (c :: before, after)
      | none => none

/-- What stands before and after the first character at which `stop`
holds; `next` carries a state over the characters before it. -/
def cutWhen (stop : σ → Char → Bool) (next : σ → Char → σ) :
    σ → List Char → Option (List Char × List Char)
  | _, [] => none
  | s, c :: cs =>
    if stop s c then
      some ([], cs)
    else
      match cutWhen stop next (next s c) cs with
      | some (before, after) => some (c :: before, after)
      | none => none

theorem cutFirst_after_lt {pattern cs before after : List Char} (hp : pattern ≠ [])
    (h : cutFirst pattern cs = some (before, after)) : after.length < cs.length := by
  induction cs generalizing before with
  | nil => simp [cutFirst] at h
  | cons c cs ih =>
      rw [cutFirst] at h
      split at h
      · cases h
        have := List.length_pos_iff.mpr hp
        simp only [List.length_drop, List.length_cons]
        omega
      · split at h
        · rename_i hrec
          cases h
          exact Nat.lt_succ_of_lt (ih hrec)
        · cases h

theorem cutWhen_after_lt {stop : σ → Char → Bool} {next : σ → Char → σ} {s : σ}
    {cs before after : List Char} (h : cutWhen stop next s cs = some (before, after)) :
    after.length < cs.length := by
  induction cs generalizing s before with
  | nil => simp [cutWhen] at h
  | cons c cs ih =>
      rw [cutWhen] at h
      split at h
      · cases h
        exact Nat.lt_succ_self _
      · split at h
        · rename_i hrec
          cases h
          exact Nat.lt_succ_of_lt (ih hrec)
        · cases h

end FxmlCodegen.Text
