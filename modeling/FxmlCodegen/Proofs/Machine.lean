import FxmlCodegen.Java.Expr

/-!
# A machine for factory methods

What the statements of a factory method do, on a store from variables to
objects. A declaration or an assignment of a constructor call makes a new
object; a setter, an addition to a list and a static setter are recorded
as effects of one object; the method ends by returning an object. A read
of a variable that is not bound is a fault (`Machine.run` then fails).

A value that comes from the markup is kept as it is written. The variable
of an element, which is what a property is set to, is looked up: the effect
then holds the object. The two may look the same (`label.setLabelFor(field)`
is written both for an attribute and for an element inside a property), so
a line of code says which one it is (`Line.wires`).

The store keeps every binding, the latest in front, so that what has been
bound, how often and in which order can be read off it.

Running code only ever adds: `Machine.grow` is the one form in which
results are stated, and `Machine.grow_grow` lets results of consecutive
pieces of code be put together.
-/

namespace FxmlCodegen.Java

/-! ## Objects -/

/-- How an object is changed. -/
inductive Call where
  /-- `object.method(value)`. -/
  | setter (method : String)
  /-- `object.getter().add(value)`. -/
  | add (getter : String)
  /-- `scope.method(object, value)`. -/
  | static (scope : Option Expr) (method : String)

inductive Value where
  /-- An expression, not evaluated. -/
  | expr (value : Expr)
  /-- The object with this number. -/
  | object (number : Nat)

structure Effect where
  call : Call
  value : Value

structure Object where
  type : TypeName
  /-- The constructor or factory call that made it. -/
  init : Expr
  effects : List Effect := []

def Object.addEffects (effects : List Effect) (o : Object) : Object :=
  { o with effects := o.effects ++ effects }

/-! ## Statements -/

/-- What a statement does. -/
inductive Action where
  | bind (var : String) (type : TypeName) (init : Expr)
  | apply (var : String) (call : Call) (value : Expr)
  | eval (value : Expr)
  | ret (value : Expr)

def Expr.action : Expr → Action
  | .assign (.name var) (.new type args) => .bind var type (.new type args)
  | .call (some (.name var)) method [value] => .apply var (.setter method) value
  | .call (some (.call (some (.name var)) getter [])) "add" [value] => .apply var (.add getter) value
  | .call scope method [.name var, value] => .apply var (.static scope method) value
  | other => .eval other

/-- A call with two arguments is a static setter, whatever its scope. -/
theorem Expr.action_static (scope : Option Expr) (method var : String) (value : Expr) :
    (Expr.call scope method [.name var, value]).action = .apply var (.static scope method) value := by
  unfold Expr.action
  split
  case h_5 hother => exact (hother scope method var value rfl).elim
  all_goals simp_all

def Stmt.action : Stmt → Action
  | .expr e => e.action
  | .declare type var init => .bind var type init
  | .ret value => .ret value

/-- A statement in its place. -/
structure Line where
  stmt : Stmt
  /-- The statement sets a property to an element, whose variable is its
  last argument. -/
  wires : Bool

namespace Line

/-- Statements none of which sets a property to an element. -/
def plain (stmts : List Stmt) : List Line := stmts.map fun stmt => ⟨stmt, false⟩

@[simp] theorem map_stmt_plain (stmts : List Stmt) : (plain stmts).map Line.stmt = stmts := by
  rw [plain, List.map_map]
  exact List.map_id _

end Line

/-! ## The machine -/

inductive Fault where
  | unbound (var : String)
  /-- An expression stands where a variable is meant. -/
  | noVariable

structure Machine where
  /-- Every binding made, the latest in front. -/
  store : List (String × Nat) := []
  /-- The objects by number. -/
  heap : List Object := []
  /-- What was evaluated without changing an object. -/
  evaluated : List Expr := []
  returned : Option Nat := none

namespace Machine

/-- The object a variable is bound to now. -/
def read (m : Machine) (var : String) : Except Fault Nat :=
  match m.store.lookup var with
  | some number => .ok number
  | none => .error (.unbound var)

def readExpr (m : Machine) : Expr → Except Fault Nat
  | .name var => m.read var
  | _ => .error .noVariable

/-- Binds a variable to a new object. -/
def bind (m : Machine) (var : String) (type : TypeName) (init : Expr) : Machine :=
  { m with
    store := (var, m.heap.length) :: m.store
    heap := m.heap ++ [⟨type, init, []⟩] }

def apply (m : Machine) (number : Nat) (effect : Effect) : Machine :=
  { m with heap := m.heap.modify number (Object.addEffects [effect]) }

/-- Runs one line; after the method has returned nothing is run. -/
def step (m : Machine) (line : Line) : Except Fault Machine :=
  if m.returned.isSome then .ok m
  else
    match line.stmt.action with
    | .bind var type init => .ok (m.bind var type init)
    | .apply var call value => do
      let number ← m.read var
      if line.wires then
        return m.apply number ⟨call, .object (← m.readExpr value)⟩
      else
        return m.apply number ⟨call, .expr value⟩
    | .eval value => .ok { m with evaluated := m.evaluated ++ [value] }
    | .ret value => do return { m with returned := some (← m.readExpr value) }

def run : List Line → Machine → Except Fault Machine
  | [], m => .ok m
  | line :: lines, m => do run lines (← m.step line)

theorem run_cons {line : Line} {lines : List Line} {m m' : Machine} (h : m.step line = .ok m') :
    run (line :: lines) m = run lines m' := by
  rw [run, h]
  rfl

theorem run_append {code rest : List Line} {m m' : Machine} (h : run code m = .ok m') :
    run (code ++ rest) m = run rest m' := by
  induction code generalizing m with
  | nil =>
      cases h
      rfl
  | cons line lines ih =>
      rw [run] at h
      rw [List.cons_append, run]
      cases hstep : m.step line with
      | error fault =>
          rw [hstep] at h
          cases h
      | ok next =>
          rw [hstep] at h
          exact ih h

end Machine

/-! ## What code adds -/

/-- A change of an object is not felt by objects added behind it. -/
theorem modify_append_of_lt {α : Type} {f : α → α} :
    ∀ {k : Nat} {l r : List α}, k < l.length → (l ++ r).modify k f = l.modify k f ++ r
  | _, [], _, h => absurd h (Nat.not_lt_zero _)
  | 0, a :: l, r, _ => rfl
  | k + 1, a :: l, r, h => by
      rw [List.cons_append, List.modify_succ_cons, List.modify_succ_cons,
        modify_append_of_lt (Nat.lt_of_succ_lt_succ h), List.cons_append]

theorem modify_append_length {α : Type} {f : α → α} (a : α) (r : List α) :
    ∀ l : List α, (l ++ a :: r).modify l.length f = l ++ f a :: r
  | [] => rfl
  | b :: l => by
      rw [List.cons_append, List.length_cons, List.modify_succ_cons, modify_append_length a r l,
        List.cons_append]

theorem Object.addEffects_comp (first second : List Effect) :
    Object.addEffects second ∘ Object.addEffects first = Object.addEffects (first ++ second) := by
  funext o
  simp [Object.addEffects]

@[simp] theorem Object.addEffects_nil : Object.addEffects [] = id := by
  funext o
  simp [Object.addEffects]

namespace Machine

/-- The machine after code that changes object `k` and adds objects of
its own, bound to the variables `vars` in the same order. -/
def grow (m : Machine) (k : Nat) (effects : List Effect) (vars : List String)
    (objects : List Object) (evaluated : List Expr) : Machine where
  store := (vars.zipIdx m.heap.length).reverse ++ m.store
  heap := m.heap.modify k (Object.addEffects effects) ++ objects
  evaluated := m.evaluated ++ evaluated
  returned := m.returned

variable (m : Machine) (k : Nat) (effects : List Effect) (vars : List String)
  (objects : List Object) (evaluated : List Expr)

@[simp] theorem length_grow_heap :
    (m.grow k effects vars objects evaluated).heap.length = m.heap.length + objects.length := by
  simp [grow]

theorem grow_nil : m.grow k [] [] [] [] = m := by
  simp [grow]

/-- Two pieces of code one after the other. -/
theorem grow_grow {m : Machine} {k : Nat} {vars : List String} {objects : List Object}
    (hk : k < m.heap.length) (hvars : vars.length = objects.length)
    (effects effects' : List Effect) (vars' : List String) (objects' : List Object)
    (evaluated evaluated' : List Expr) :
    (m.grow k effects vars objects evaluated).grow k effects' vars' objects' evaluated'
      = m.grow k (effects ++ effects') (vars ++ vars') (objects ++ objects')
        (evaluated ++ evaluated') := by
  have hk' : k < (m.heap.modify k (Object.addEffects effects)).length := by
    rw [List.length_modify]
    exact hk
  have hstore : (vars'.zipIdx (m.heap.length + objects.length)).reverse
      ++ ((vars.zipIdx m.heap.length).reverse ++ m.store)
        = ((vars ++ vars').zipIdx m.heap.length).reverse ++ m.store := by
    rw [List.zipIdx_append, List.reverse_append, hvars, List.append_assoc]
  have hheap : (m.heap.modify k (Object.addEffects effects) ++ objects).modify k
        (Object.addEffects effects') ++ objects'
      = m.heap.modify k (Object.addEffects (effects ++ effects')) ++ (objects ++ objects') := by
    rw [modify_append_of_lt hk', List.modify_modify_eq, Object.addEffects_comp, List.append_assoc]
  unfold grow
  rw [hheap, List.append_assoc m.evaluated]
  simp only [List.length_append, List.length_modify]
  rw [hstore]

/-- Code that makes an object, then changes it and adds others, adds the
changed object and the others; object `k` stays as it is. -/
theorem bind_grow (var : String) (type : TypeName) (init : Expr) :
    (m.bind var type init).grow m.heap.length effects vars objects evaluated
      = m.grow k [] (var :: vars) (⟨type, init, effects⟩ :: objects) evaluated := by
  have hheap : (m.heap ++ [(⟨type, init, []⟩ : Object)]).modify m.heap.length
      (Object.addEffects effects) = m.heap ++ [⟨type, init, effects⟩] := modify_append_length _ _ _
  unfold grow bind
  simp only [hheap, List.length_append, List.length_singleton, List.zipIdx_cons,
    List.reverse_cons, List.append_assoc, List.singleton_append, Object.addEffects_nil,
    List.modify_id]

/-! ## Reading variables after code has run -/

theorem lookup_grow_of_not_mem {vars : List String} {x : String} (hx : x ∉ vars) :
    (m.grow k effects vars objects evaluated).store.lookup x = m.store.lookup x := by
  have hnone : ((vars.zipIdx m.heap.length).reverse).lookup x = none := by
    rw [List.lookup_eq_none_iff]
    intro p hp
    have hfst := List.fst_mem_of_mem_zipIdx (List.mem_reverse.mp hp)
    exact bne_iff_ne.mpr fun heq => hx (heq ▸ hfst)
  rw [grow, List.lookup_append, hnone, Option.none_or]

/-- The first variable bound by code reads as its first object. -/
theorem lookup_grow_head {vars : List String} {x : String} (hx : x ∉ vars) :
    (m.grow k effects (x :: vars) objects evaluated).store.lookup x = some m.heap.length := by
  have hnone : ((vars.zipIdx (m.heap.length + 1)).reverse).lookup x = none := by
    rw [List.lookup_eq_none_iff]
    intro p hp
    have hfst := List.fst_mem_of_mem_zipIdx (List.mem_reverse.mp hp)
    exact bne_iff_ne.mpr fun heq => hx (heq ▸ hfst)
  rw [grow, List.zipIdx_cons, List.reverse_cons, List.append_assoc, List.lookup_append, hnone,
    Option.none_or, List.singleton_append, List.lookup_cons_self]

end Machine

end FxmlCodegen.Java
