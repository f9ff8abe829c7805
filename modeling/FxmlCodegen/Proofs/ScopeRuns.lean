import FxmlCodegen.Naming.Scope
import FxmlCodegen.Proofs.FreshNames
import Mathlib.Data.Finset.Card
import Mathlib.Data.List.DropRight
import Mathlib.Order.Bounds.Basic

/-!
# A scope in use

Whatever a caller does with a scope, what it gives back depends on the
calls made so far and on nothing else. A fresh name is the first that is
free, of the names that were given or reserved since they were last cleared
(`IsFirstFree`), and to find it takes no more than one look for each of
these names and one more (`probe`). An include target is what was last put
under its source.

`Usage` is a scope with a record of the calls. What it stands for is said
in terms of the record alone (`Usage.given`, `Usage.taken`, `last?`), and
`Usage.Sound` says that the scope holds just that. Each call keeps it
(`Usage.Sound.step`), so it holds of every run.
-/

namespace FxmlCodegen

/-! ## The first free name -/

/-- Looks at candidates, up to as many as the bound: the current one, then
the base name with the next number behind it, and so on. -/
def probe (taken : Finset String) (base : String) : (bound : Nat) → String → Nat → Option String
  | 0, _, _ => none
  | bound + 1, current, next =>
    if current ∈ taken then probe taken base bound (base ++ toString next) (next + 1)
    else some current

/-- The name is the base name, if that is free, or has the least number
behind it that makes it free; and one more candidate than names are taken
is enough to find it. -/
structure IsFirstFree (taken : Finset String) (base name : String) : Prop where
  plain : base ∉ taken → name = base
  numbered : base ∈ taken →
    ∃ k, IsLeast {k : Nat | 1 ≤ k ∧ base ++ toString k ∉ taken} k ∧ name = base ++ toString k
  found : probe taken base (taken.card + 1) base 1 = some name

section

variable {taken : Finset String} {base : String} {k : Nat}

/-- Candidates that are taken are that many taken names, for no two of them
are the same. -/
theorem le_card_of_candidates (hbelow : ∀ j < k, candidate base j ∈ taken) : k ≤ taken.card := by
  have hinj : Function.Injective (candidate base) := fun _ _ => candidate_injective base
  calc k = ((Finset.range k).image (candidate base)).card := by
        rw [Finset.card_image_of_injective _ hinj, Finset.card_range]
    _ ≤ taken.card := by
        refine Finset.card_le_card fun name hname => ?_
        obtain ⟨j, hj, rfl⟩ := Finset.mem_image.mp hname
        exact hbelow j (Finset.mem_range.mp hj)

theorem probe_eq (hbelow : ∀ j < k, candidate base j ∈ taken) (hfree : candidate base k ∉ taken) :
    ∀ {bound i : Nat}, i ≤ k → k < i + bound →
      probe taken base bound (candidate base i) (i + 1) = some (candidate base k)
  | 0, i, hle, hlt => by omega
  | bound + 1, i, hle, hlt => by
      rw [probe]
      rcases Nat.eq_or_lt_of_le hle with rfl | hnext
      · rw [if_neg hfree]
      · rw [if_pos (hbelow i hnext)]
        exact probe_eq hbelow hfree hnext (by omega)

theorem isFirstFree_candidate (hbelow : ∀ j < k, candidate base j ∈ taken)
    (hfree : candidate base k ∉ taken) : IsFirstFree taken base (candidate base k) := by
  refine ⟨fun hbase => ?_, fun hbase => ?_, ?_⟩
  · cases k with
    | zero => rfl
    | succ k => exact (hbase (hbelow 0 k.succ_pos)).elim
  · cases k with
    | zero => exact (hfree hbase).elim
    | succ k =>
        refine ⟨k + 1, ⟨⟨k.succ_pos, hfree⟩, fun j hj => ?_⟩, rfl⟩
        -- A smaller number that is free would be that of an earlier candidate.
        by_contra hlt
        obtain ⟨hpos, hj⟩ := hj
        obtain ⟨i, rfl⟩ := Nat.exists_eq_add_of_le' hpos
        exact hj (hbelow (i + 1) (by omega))
  · exact probe_eq hbelow hfree (Nat.zero_le k)
      (by have := le_card_of_candidates hbelow; omega)

end

/-- A fresh name depends on the set of taken names only. -/
theorem isFirstFree_freshName {names : List String} {taken : Finset String}
    (hsame : ∀ name, name ∈ names ↔ name ∈ taken) (seed : String) :
    IsFirstFree taken (baseName seed) (freshName names seed) := by
  obtain ⟨k, hk, hbelow⟩ := freshName_first names seed
  have hfree := freshName_not_mem names seed
  rw [hk] at hfree ⊢
  exact isFirstFree_candidate (fun j hj => (hsame _).mp (hbelow j hj))
    (fun hin => hfree ((hsame _).mpr hin))

/-! ## Calls -/

namespace Scope

/-- What can be asked of a scope. -/
inductive Op where
  | fresh (seed : String)
  | reserve (name : String)
  | clearNames
  | addController (source controller : String)
  | addFactory (source : String) (type : Java.TypeName)
  | activate (controller : Option String)
  deriving DecidableEq

/-- The name that is given, if one was asked for, and the scope after it. -/
def perform (s : Scope) : Op → Option String × Scope
  | .fresh seed => (some (s.fresh seed).1, (s.fresh seed).2)
  | .reserve name => (none, s.reserve name)
  | .clearNames => (none, s.clearNames)
  | .addController source controller => (none, s.addController source controller)
  | .addFactory source type => (none, s.addFactory source type)
  | .activate controller => (none, { s with active := controller })

namespace Op

def reserved? : Op → Option String
  | .reserve name => some name
  | _ => none

def controller? (key : String) : Op → Option String
  | .addController source controller => if source = key then some controller else none
  | _ => none

def factory? (key : String) : Op → Option Java.TypeName
  | .addFactory source type => if source = key then some type else none
  | _ => none

def activated? : Op → Option (Option String)
  | .activate controller => some controller
  | _ => none

end Op

/-! ### What one call does -/

variable (s : Scope) (op : Op)

theorem mem_taken_perform {name : String} :
    name ∈ (s.perform op).2.taken
      ↔ (op ≠ .clearNames ∧ name ∈ s.taken) ∨ name ∈ (s.perform op).1 ∨ name ∈ op.reserved? := by
  cases op with
  | fresh seed => simp [perform, fresh, Op.reserved?, or_comm, eq_comm]
  | reserve => simp [perform, reserve, Op.reserved?, or_comm, eq_comm]
  | clearNames => simp [perform, clearNames, Op.reserved?]
  | addController => simp [perform, addController, Op.reserved?]
  | addFactory => simp [perform, addFactory, Op.reserved?]
  | activate => simp [perform, Op.reserved?]

theorem not_mem_taken_of_given {name : String} (hname : name ∈ (s.perform op).1) :
    name ∉ s.taken := by
  cases op with
  | fresh seed =>
      cases hname
      exact freshName_not_mem s.taken seed
  | _ => cases hname

theorem get?_controllers_perform (key : String) :
    (s.perform op).2.controllers.get? key = (op.controller? key).or (s.controllers.get? key) := by
  cases op with
  | addController source controller => exact s.controllers.get?_put source key controller
  | _ => rfl

theorem get?_factories_perform (key : String) :
    (s.perform op).2.factories.get? key = (op.factory? key).or (s.factories.get? key) := by
  cases op with
  | addFactory source type => exact s.factories.get?_put source key type
  | _ => rfl

theorem active_perform : (s.perform op).2.active = op.activated?.getD s.active := by
  cases op <;> rfl

end Scope

/-! ## Runs -/

open Scope (Op)

/-- A scope with the calls made so far, and the names they gave. -/
structure Usage where
  scope : Scope := {}
  calls : List (Op × Option String) := []

namespace Usage

def step (u : Usage) (op : Op) : Usage where
  scope := (u.scope.perform op).2
  calls := u.calls ++ [(op, (u.scope.perform op).1)]

/-- The calls made one after the other, from the scope in which nothing is
taken or registered. -/
def run (ops : List Op) : Usage := ops.foldl step {}

/-- The calls since the names were last cleared. -/
def recent (u : Usage) : List (Op × Option String) :=
  u.calls.rtakeWhile fun call => call.1 ≠ .clearNames

/-- The names given since then, in order. -/
def given (u : Usage) : List String := u.recent.filterMap (·.2)

def reserved (u : Usage) : List String := u.recent.filterMap (·.1.reserved?)

/-- The names given or reserved since then. -/
def taken (u : Usage) : Finset String := u.given.toFinset ∪ u.reserved.toFinset

theorem mem_taken {u : Usage} {name : String} :
    name ∈ u.taken ↔ name ∈ u.given ∨ name ∈ u.reserved := by
  simp [taken]

theorem recent_step (u : Usage) (op : Op) :
    (u.step op).recent
      = if op = .clearNames then [] else u.recent ++ [(op, (u.scope.perform op).1)] := by
  rw [recent, step, List.rtakeWhile_concat]
  by_cases hclear : op = .clearNames
  · simp [hclear]
  · simp [hclear, recent]

/-- What is kept of the recent calls after one more. -/
theorem filterMap_recent_step {α : Type} (f : Op × Option String → Option α) (u : Usage)
    (op : Op) (hclear : f (.clearNames, none) = none) :
    (u.step op).recent.filterMap f
      = (if op = .clearNames then [] else u.recent.filterMap f)
        ++ (f (op, (u.scope.perform op).1)).toList := by
  rw [recent_step]
  split
  · rename_i hop
    subst hop
    simp [Scope.perform, hclear]
  · cases hcall : f (op, (u.scope.perform op).1) <;> simp [hcall]

theorem given_step (u : Usage) (op : Op) :
    (u.step op).given
      = (if op = .clearNames then [] else u.given) ++ (u.scope.perform op).1.toList :=
  filterMap_recent_step _ u op rfl

theorem reserved_step (u : Usage) (op : Op) :
    (u.step op).reserved
      = (if op = .clearNames then [] else u.reserved) ++ op.reserved?.toList :=
  filterMap_recent_step _ u op rfl

theorem mem_taken_step {u : Usage} {op : Op} {name : String} :
    name ∈ (u.step op).taken
      ↔ (op ≠ .clearNames ∧ name ∈ u.taken) ∨ name ∈ (u.scope.perform op).1
        ∨ name ∈ op.reserved? := by
  rw [mem_taken, mem_taken, given_step, reserved_step]
  by_cases hclear : op = .clearNames
  · simp [hclear]
  · simp only [hclear, if_false, List.mem_append, Option.mem_toList, ne_eq, not_false_eq_true,
      true_and]
    tauto

section

variable {α : Type}

/-- What the last call that says something says. -/
def last? (says? : Op → Option α) (ops : List Op) : Option α := ops.reverse.findSome? says?

theorem last?_concat (says? : Op → Option α) (ops : List Op) (op : Op) :
    last? says? (ops ++ [op]) = (says? op).or (last? says? ops) := by
  rw [last?, List.reverse_append, List.findSome?_append, List.reverse_singleton,
    List.findSome?_singleton]
  rfl

end

/-- The scope holds what the calls say. -/
structure Sound (ops : List Op) (u : Usage) : Prop where
  taken : ∀ name, name ∈ u.scope.taken ↔ name ∈ u.taken
  given : u.given.Nodup
  controllers : ∀ key, u.scope.controllers.get? key = last? (Op.controller? key) ops
  factories : ∀ key, u.scope.factories.get? key = last? (Op.factory? key) ops
  active : u.scope.active = (last? Op.activated? ops).getD none

theorem Sound.step {ops : List Op} {u : Usage} (h : Sound ops u) (op : Op) :
    Sound (ops ++ [op]) (u.step op) where
  taken name := by
    rw [mem_taken_step, ← h.taken]
    exact u.scope.mem_taken_perform op
  given := by
    rw [given_step]
    by_cases hclear : op = .clearNames
    · subst hclear
      exact List.nodup_nil
    · rw [if_neg hclear, List.nodup_append]
      refine ⟨h.given, by cases (u.scope.perform op).1 <;> simp, ?_⟩
      -- A name given before is taken, so it is not the one given now.
      rintro old hold name hname rfl
      refine u.scope.not_mem_taken_of_given op (Option.mem_toList.mp hname) ?_
      rw [h.taken, mem_taken]
      exact .inl hold
  controllers key := by
    rw [last?_concat, ← h.controllers]
    exact u.scope.get?_controllers_perform op key
  factories key := by
    rw [last?_concat, ← h.factories]
    exact u.scope.get?_factories_perform op key
  active := by
    have hactive := u.scope.active_perform op
    rw [h.active] at hactive
    rw [last?_concat]
    cases hop : op.activated? with
    | none => rwa [hop] at hactive
    | some controller => rwa [hop] at hactive

theorem sound_run (ops : List Op) : Sound ops (run ops) := by
  induction ops using List.reverseRecOn with
  | nil =>
      refine ⟨fun name => ?_, List.nodup_nil, fun _ => rfl, fun _ => rfl, rfl⟩
      exact iff_of_false List.not_mem_nil (Finset.notMem_empty name)
  | append_singleton ops op ih =>
      rw [run, List.foldl_append]
      exact ih.step op

/-- After any calls, a seed is given the first free of its names, no name
has been given twice since the names were last cleared, and each include
target, and the active controller, is what was last set. -/
theorem run_answers (ops : List Op) :
    (∀ seed, ∃ segment, (Text.split '.' seed).getLast? = some segment
        ∧ IsFirstFree (run ops).taken (Text.lowerFirst segment) ((run ops).scope.fresh seed).1)
      ∧ (run ops).given.Nodup
      ∧ (∀ key, (run ops).scope.controllers.get? key = last? (Op.controller? key) ops)
      ∧ (∀ key, (run ops).scope.factories.get? key = last? (Op.factory? key) ops)
      ∧ (run ops).scope.active = (last? Op.activated? ops).getD none := by
  have h := sound_run ops
  refine ⟨fun seed => ⟨_, Text.getLast?_split '.' seed, ?_⟩, h.given, h.controllers, h.factories,
    h.active⟩
  exact isFirstFree_freshName h.taken seed

example : (run [.fresh "box1", .fresh "Box", .reserve "box2", .fresh "a.Box", .clearNames,
    .fresh "Box"]).calls.filterMap (·.2) = ["box1", "box", "box3", "box"] := by
  decide +kernel

end Usage

end FxmlCodegen
