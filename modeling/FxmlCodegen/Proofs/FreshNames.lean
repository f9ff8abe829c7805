import FxmlCodegen.Naming.Fresh

/-!
# Fresh names are free

`freshName` looks for a candidate only among the rivals of its base name
and strikes out each one it meets. Two facts make that search exact:

- **candidates differ** (`candidate_injective`): the number behind a base
  name can be read back from the digits, so striking out one candidate
  never hides another;
- **the bound suffices** (`leastFree_not_mem`): each step strikes out one
  rival, so after as many steps as there are rivals none is left.

Together with `isRival_candidate` (no taken name outside the rivals can be
a candidate) they give `freshName_not_mem`, the one fact about fresh names
that the naming of a document rests on.

A fresh name is also the first candidate that is free (`freshName_first`),
so to take more names beforehand changes it only if it is one of them
(`freshName_eq_of_subset`), and the order in which names were taken does
not matter (`freshName_congr`).
-/

namespace FxmlCodegen

/-! ## Candidates differ -/

/-- The digits behind the base name spell the number of the candidate;
the base name itself, with no digits, is number zero. -/
theorem ofDigitChars_candidate (base : String) (k : Nat) :
    Nat.ofDigitChars 10 ((candidate base k).toList.drop base.toList.length) 0 = k := by
  cases k with
  | zero => simp [candidate]
  | succ k => simp [candidate]

theorem candidate_injective (base : String) {i j : Nat}
    (h : candidate base i = candidate base j) : i = j := by
  rw [← ofDigitChars_candidate base i, h, ofDigitChars_candidate base j]

/-! ## The search -/

theorem le_leastFree (base : String) :
    ∀ (rivals : List String) (steps k : Nat), k ≤ leastFree base rivals steps k
  | _, 0, k => Nat.le_refl k
  | rivals, steps + 1, k => by
      rw [leastFree]
      split
      · exact Nat.le_of_succ_le (le_leastFree base _ steps (k + 1))
      · exact Nat.le_refl k

/-- The candidate the search stops at is no rival, provided the bound is
not below their number. A rival struck out on the way is an earlier
candidate, so it is not the one found. -/
theorem leastFree_not_mem (base : String) :
    ∀ {rivals : List String} {steps : Nat} (k : Nat), rivals.length ≤ steps →
      candidate base (leastFree base rivals steps k) ∉ rivals
  | rivals, 0, k, hlen => by
      rw [List.eq_nil_of_length_eq_zero (Nat.le_zero.mp hlen)]
      exact List.not_mem_nil
  | rivals, steps + 1, k, hlen => by
      rw [leastFree]
      split
      · rename_i hmet
        have hmem : candidate base k ∈ rivals := List.contains_iff_mem.mp hmet
        have hrest : (rivals.erase (candidate base k)).length ≤ steps := by
          rw [List.length_erase_of_mem hmem]
          omega
        have hne : candidate base (leastFree base (rivals.erase (candidate base k)) steps (k + 1))
            ≠ candidate base k := fun heq => by
          have hle := le_leastFree base (rivals.erase (candidate base k)) steps (k + 1)
          have := candidate_injective base heq
          omega
        exact fun hin =>
          leastFree_not_mem base (k + 1) hrest ((List.mem_erase_of_ne hne).mpr hin)
      · rename_i hmet
        exact fun hin => hmet (List.contains_iff_mem.mpr hin)

/-- A fresh name is not taken: it is a candidate, so if it were taken it
would be one of the rivals the search has ruled out. -/
theorem freshName_not_mem (taken : List String) (seed : String) :
    freshName taken seed ∉ taken := by
  intro htaken
  have hrival : freshName taken seed ∈ (taken.filter (isRival (baseName seed))).reverse := by
    rw [List.mem_reverse, List.mem_filter]
    exact ⟨htaken, isRival_candidate _ _⟩
  exact leastFree_not_mem (baseName seed) 0 (Nat.le_refl _) hrival

/-! ## The first that is free -/

/-- The candidates the search has passed by are rivals. -/
theorem mem_of_lt_leastFree (base : String) :
    ∀ {rivals : List String} {steps k j : Nat}, k ≤ j → j < leastFree base rivals steps k →
      candidate base j ∈ rivals
  | rivals, 0, k, j, hle, hlt => by
      rw [leastFree] at hlt
      omega
  | rivals, steps + 1, k, j, hle, hlt => by
      rw [leastFree] at hlt
      split at hlt
      · rename_i hmet
        rcases Nat.eq_or_lt_of_le hle with rfl | hnext
        · exact List.contains_iff_mem.mp hmet
        · exact List.mem_of_mem_erase (mem_of_lt_leastFree base hnext hlt)
      · omega

theorem freshName_first (taken : List String) (seed : String) :
    ∃ k, freshName taken seed = candidate (baseName seed) k
      ∧ ∀ j < k, candidate (baseName seed) j ∈ taken := by
  refine ⟨_, rfl, fun j hj => ?_⟩
  have hrival := mem_of_lt_leastFree (baseName seed) (Nat.zero_le j) hj
  rw [List.mem_reverse] at hrival
  exact (List.mem_filter.mp hrival).1

theorem freshName_eq_of_subset {taken taken' : List String} {seed : String}
    (hsub : taken ⊆ taken') (hfree : freshName taken seed ∉ taken') :
    freshName taken' seed = freshName taken seed := by
  obtain ⟨k, hk, hbelow⟩ := freshName_first taken seed
  obtain ⟨k', hk', hbelow'⟩ := freshName_first taken' seed
  rcases Nat.lt_trichotomy k k' with hlt | rfl | hlt
  · rw [hk] at hfree
    exact (hfree (hbelow' k hlt)).elim
  · rw [hk, hk']
  · have hfree' := freshName_not_mem taken' seed
    rw [hk'] at hfree'
    exact (hfree' (hsub (hbelow k' hlt))).elim

theorem freshName_congr {taken taken' : List String} (hsame : ∀ x, x ∈ taken ↔ x ∈ taken')
    (seed : String) : freshName taken seed = freshName taken' seed := by
  have hfree : freshName taken seed ∉ taken' := fun hin =>
    freshName_not_mem taken seed ((hsame _).mpr hin)
  exact (freshName_eq_of_subset (fun x hx => (hsame x).mp hx) hfree).symm

end FxmlCodegen
