/-!
# Computations that can fail

When a sequence of steps succeeds: exactly if every step does. And with
what it fails: with the failure of its first step that does (`failure?`).
Reading, naming and code generation are all such sequences, and their
proofs take them apart with these.
-/

namespace FxmlCodegen

variable {ε α β : Type}

/-- A computation that succeeds has succeeded at every step. -/
theorem bind_eq_ok {x : Except ε α} {f : α → Except ε β} {b : β} :
    (x >>= f) = .ok b ↔ ∃ a, x = .ok a ∧ f a = .ok b := by
  cases x with
  | error failure =>
      constructor
      · intro h
        cases h
      · rintro ⟨a, h, -⟩
        cases h
  | ok a =>
      constructor
      · intro h
        exact ⟨a, rfl, h⟩
      · rintro ⟨_, ⟨⟩, h⟩
        exact h

/-- Two steps succeed if both do, where what the first has given does not
matter to the second. -/
theorem exists_bind_eq_ok {x : Except ε α} {f : α → Except ε β} {P : Prop}
    (hf : ∀ a, (∃ b, f a = .ok b) ↔ P) : (∃ b, (x >>= f) = .ok b) ↔ (∃ a, x = .ok a) ∧ P := by
  simp only [bind_eq_ok]
  constructor
  · rintro ⟨b, a, hx, hb⟩
    exact ⟨⟨a, hx⟩, (hf a).mp ⟨b, hb⟩⟩
  · rintro ⟨⟨a, hx⟩, hP⟩
    obtain ⟨b, hb⟩ := (hf a).mpr hP
    exact ⟨b, a, hx, hb⟩

theorem exists_bind_pure_eq_ok {x : Except ε α} {g : α → β} :
    (∃ b, (x >>= fun a => pure (g a)) = .ok b) ↔ ∃ a, x = .ok a := by
  have hpure : ∀ a, (∃ b, (pure (g a) : Except ε β) = .ok b) ↔ True := fun a =>
    iff_true_intro ⟨g a, rfl⟩
  rw [exists_bind_eq_ok hpure, and_true]

theorem exists_mapM_eq_ok {f : α → Except ε β} :
    ∀ {l : List α}, (∃ bs, l.mapM f = .ok bs) ↔ ∀ a ∈ l, ∃ b, f a = .ok b
  | [] => by
      refine iff_of_true ⟨[], rfl⟩ fun a ha => ?_
      cases ha
  | a :: l => by
      rw [List.mapM_cons, List.forall_mem_cons]
      exact exists_bind_eq_ok fun b => exists_bind_pure_eq_ok.trans exists_mapM_eq_ok

theorem exists_ok_of_isOk : ∀ {x : Except ε α}, x.isOk = true → ∃ a, x = .ok a
  | .ok a, _ => ⟨a, rfl⟩

/-! ## The failure -/

/-- What a computation has failed with. -/
def failure? : Except ε α → Option ε
  | .error failure => some failure
  | .ok _ => none

theorem failure?_eq_none {x : Except ε α} : failure? x = none ↔ ∃ a, x = .ok a := by
  cases x <;> simp [failure?]

theorem failure?_eq_some {x : Except ε α} {failure : ε} :
    failure? x = some failure ↔ x = .error failure := by
  cases x <;> simp [failure?]

/-- Two steps fail as the first of them that fails, where what the first
has given does not matter to the second. -/
theorem failure?_bind {x : Except ε α} {f : α → Except ε β} {r : Option ε}
    (hf : ∀ a, failure? (f a) = r) : failure? (x >>= f) = (failure? x).or r := by
  cases x with
  | error failure => rfl
  | ok a => exact hf a

theorem failure?_bind_pure {x : Except ε α} {g : α → β} :
    failure? (x >>= fun a => pure (g a)) = failure? x := by
  cases x <;> rfl

end FxmlCodegen
