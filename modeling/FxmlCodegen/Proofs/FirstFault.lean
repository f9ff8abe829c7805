import FxmlCodegen.Proofs.ClosedBatch

/-!
# What a document fails with

Code generation asks for names and include targets all over the tree, in
front of children, between them and behind them. What it fails with can
be said without the tree, by one look at the elements in document order:
the first that is not below an include and cannot be given code decides
(`Document.report`). The root and its controller are asked for before that,
the source file of the controller after it. `Document.compile_reports`
says that this is the failure of compiling, for documents with and without
names, in every scope and with any source files.

A property, which sets its children on the owner, could ask each child with
code for its variable again behind the code of that child
(`Element.emitTwice`). The child has been given code, so it has the variable
(`Element.requireIdentifier_of_emit`), and to ask again, anywhere in a tree,
changes nothing (`Element.emitTwice_eq`).
-/

namespace FxmlCodegen

open Java (Sources)

/-! ## Asking for a variable again -/

namespace Element

/-- Goes on with the code of an element. If it is to ask `again`, and there
is code, the element is asked for its variable once more. -/
def askAgain (again : Bool) (e : Element) : Option Fragment → Except Failure (Option Fragment)
  | none => .ok none
  | some fragment =>
    if again then e.head.requireIdentifier.map fun var => some { fragment with var }
    else .ok (some fragment)

mutual

/-- The code of an element, where a property asks its children twice. -/
def emitTwice (env : Env) (place : Place) : Element → Except Failure (Option Fragment)
  | mk h cs =>
    match h.kind with
    | .declaration _ => do
      let var ← h.requireIdentifier
      let children ← emitAllTwice env var false cs
      return some ⟨var, Emit.objectCode env place h var children⟩
    | .include source => do
      let (controller, factory) ← Emit.includeTarget env source
      let var ← h.requireIdentifier
      return some ⟨var, Emit.includeCode env h var controller factory⟩
    | .property kind => do
      let var ← h.requireIdentifier
      let children ← emitAllTwice env var true cs
      return some ⟨var, Emit.propertyCode place.owner kind h.name children⟩
    | _ => do
      let _ ← emitAllTwice env h.identifierText false cs
      return none

/-- The code of children. If they are asked again, each is before the next
is given code. -/
def emitAllTwice (env : Env) (owner : String) (again : Bool) :
    List Element → Except Failure (List Fragment)
  | [] => return []
  | e :: es => do
    let fragment ← e.emitTwice env (.inside owner)
    let fragment ← e.askAgain again fragment
    let fragments ← emitAllTwice env owner again es
    return fragment.toList ++ fragments

end

/-- An element that has been given code has the variable it is left in. -/
theorem requireIdentifier_of_emit {env : Env} {place : Place} :
    ∀ {e : Element} {fragment : Fragment}, e.emit env place = .ok (some fragment) →
      e.head.requireIdentifier = .ok fragment.var
  | mk h cs, fragment, hok => by
      rw [emit] at hok
      split at hok
      · obtain ⟨var, hvar, hok⟩ := bind_eq_ok.mp hok
        obtain ⟨children, -, hok⟩ := bind_eq_ok.mp hok
        cases hok
        exact hvar
      · obtain ⟨target, -, hok⟩ := bind_eq_ok.mp hok
        obtain ⟨var, hvar, hok⟩ := bind_eq_ok.mp hok
        cases hok
        exact hvar
      · obtain ⟨var, hvar, hok⟩ := bind_eq_ok.mp hok
        obtain ⟨children, -, hok⟩ := bind_eq_ok.mp hok
        cases hok
        exact hvar
      · obtain ⟨children, -, hok⟩ := bind_eq_ok.mp hok
        cases hok

theorem askAgain_of_emit {env : Env} {place : Place} {e : Element} {fragment : Option Fragment}
    (hok : e.emit env place = .ok fragment) (again : Bool) :
    e.askAgain again fragment = .ok fragment := by
  cases fragment with
  | none => rfl
  | some fragment =>
      rw [askAgain, requireIdentifier_of_emit hok]
      cases again with
      | false => rfl
      | true => rfl

mutual

theorem emitTwice_eq (env : Env) (place : Place) :
    ∀ e : Element, e.emitTwice env place = e.emit env place
  | mk h cs => by
      rw [emitTwice, emit]
      cases h.kind with
      | «include» source => rfl
      | _ => simp only [emitAllTwice_eq env _ _ cs]

theorem emitAllTwice_eq (env : Env) (owner : String) (again : Bool) :
    ∀ es : List Element, emitAllTwice env owner again es = emitAll env owner es
  | [] => by rw [emitAllTwice, emitAll]
  | e :: es => by
      rw [emitAllTwice, emitAll, emitTwice_eq env _ e, emitAllTwice_eq env owner again es]
      cases hfirst : e.emit env (.inside owner) with
      | error failure => rfl
      | ok fragment =>
          show (do
            let fragment ← e.askAgain again fragment
            let fragments ← emitAll env owner es
            return fragment.toList ++ fragments) = _
          rw [askAgain_of_emit hfirst]

end

end Element

/-! ## The report -/

namespace Document

/-- What compiling the document fails with, if it does. -/
def report (d : Document) (scope : Scope) (sources : Sources) : Option Failure :=
  match d.root with
  | none => some (.missingRoot d.name)
  | some root =>
    match root.head.kind with
    | .declaration none => some (.missingController d.name)
    | .declaration (some controller) =>
      (root.reached.findSome? (Head.fault? scope)).or
        (if (sources.get? controller).isSome then none
          else some (.missingTarget controller d.name))
    | _ => some (.missingRoot d.name)

theorem failure?_body (env : Env) (root : Element) :
    failure? (body env root) = root.reached.findSome? (Head.fault? env.scope) :=
  failure?_bind_pure.trans (root.failure?_emit env .root)

theorem failure?_compile (options : Options) (handler : Handler) (d : Document) (scope : Scope)
    (sources : Sources) :
    failure? (d.compile options handler scope sources).result = d.report scope sources := by
  rw [compile_result]
  unfold report rootObject?
  cases d.root with
  | none => rfl
  | some root =>
      cases hkind : root.head.kind with
      | declaration controller =>
          cases controller with
          | none => simp only [hkind, failure?]
          | some controller =>
              simp only [hkind]
              -- What is attached does not matter to whether there is a file for it.
              have hattach : ∀ stmts : List Java.Stmt,
                  failure? (if (sources.get? controller).isSome then
                      .ok (factoryMethod options root.head.name stmts)
                    else .error (Failure.missingTarget controller d.name))
                  = if (sources.get? controller).isSome then none
                    else some (Failure.missingTarget controller d.name) := by
                intro stmts
                split <;> rfl
              rw [failure?_bind hattach, failure?_body]
              rfl
      | _ => simp only [hkind, failure?]

/-- A document fails as its report says and with nothing else, and does not
fail where the report is empty. Nor does it matter, to the code or to the
failure, if the children of every property are asked for their variables
twice. -/
theorem compile_reports (options : Options) (handler : Handler) (d : Document) (scope : Scope)
    (sources : Sources) :
    failure? (d.compile options handler scope sources).result = d.report scope sources
      ∧ (∀ (env : Env) (place : Place) (e : Element), e.emitTwice env place = e.emit env place)
      ∧ ∀ (env : Env) (owner : String) (again : Bool) (es : List Element),
        Element.emitAllTwice env owner again es = Element.emitAll env owner es :=
  ⟨failure?_compile options handler d scope sources, Element.emitTwice_eq, Element.emitAllTwice_eq⟩

end Document

end FxmlCodegen
