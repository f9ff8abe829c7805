import FxmlCodegen.Compile
import FxmlCodegen.Proofs.Attempts
import FxmlCodegen.Proofs.Machine
import FxmlCodegen.Proofs.NamingPass

/-!
# Emitted code, line by line

`Element.emit` mixes two things: what can be missing, and the code itself.
Here is the code alone (`Element.lines`), a total function of the named
tree, with a note at each line whether it sets a property to an element.
Wherever code is emitted, these are its statements (`emit_eq_ok`), so what
is shown of lines holds of the method bodies (`body_eq_lines`).
-/

namespace FxmlCodegen

open Java (Line Stmt)

namespace Element

mutual

/-- The lines for an element at a place. -/
def lines (env : Env) (place : Place) : Element → List Line
  | mk h cs =>
    match h.kind with
    | .declaration _ =>
      Line.plain (Emit.construction env h h.identifierText
          :: Emit.attributeStmts env h h.identifierText)
        ++ (linesAll env h.identifierText cs
        ++ Line.plain (Emit.trailer env h.identifierText place))
    | .include source =>
      Line.plain (Emit.includeCode env h h.identifierText
        ((env.scope.controllers.get? source).getD "") ((env.scope.factories.get? source).getD ""))
    | .property kind => linesWired env h.identifierText (Emit.wiring place.owner kind h.name) cs
    | _ => []

/-- The lines for the children of a declaration. -/
def linesAll (env : Env) (owner : String) : List Element → List Line
  | [] => []
  | e :: es => e.lines env (.inside owner) ++ linesAll env owner es

/-- The lines for the children of a property, each followed by the one
that sets the property to it. -/
def linesWired (env : Env) (owner : String) (wire : String → Stmt) : List Element → List Line
  | [] => []
  | e :: es =>
    e.lines env (.inside owner)
      ++ ((if e.head.needsName then [⟨wire e.head.identifierText, true⟩] else [])
      ++ linesWired env owner wire es)

end

/-- Elements of the other kinds have no lines. -/
theorem lines_eq_nil (env : Env) (place : Place) :
    ∀ {e : Element}, e.head.needsName = false → e.lines env place = []
  | mk h cs, hneeds => by
      cases hkind : h.kind with
      | declaration => simp [head, Head.needsName, Head.isObject, hkind] at hneeds
      | «include» => simp [head, Head.needsName, Head.isObject, hkind] at hneeds
      | property => simp [head, Head.needsName, Head.isProperty, hkind] at hneeds
      | _ => rw [lines, hkind]

end Element

/-! ## Code of attributes -/

theorem AttributeCode.toStmt_of_statement? {code : AttributeCode} {stmt : Stmt}
    (hstmt : code.statement? = some stmt) : code.toStmt = stmt := by
  cases code with
  | statement stmt => exact Option.some.inj hstmt
  | value expr => cases hstmt

/-- As a statement the code of an attribute is an expression. -/
theorem Attribute.exists_toStmt_emit (env : Env) (owner : String) (a : Attribute) :
    ∃ e, (a.emit env owner).toStmt = .expr e := by
  unfold Attribute.emit
  split
  · exact ⟨_, rfl⟩
  · split
    · exact ⟨_, rfl⟩
    · exact ⟨_, rfl⟩

/-- What the constructor of an object leaves over is code of its
attributes. -/
theorem Emit.exists_emit_of_mem_attributeStmts {env : Env} {h : Head} {var : String} {stmt : Stmt}
    (hstmt : stmt ∈ attributeStmts env h var) :
    ∃ a ∈ h.attributes, stmt = (a.emit env var).toStmt := by
  have hcodes : ∀ code ∈ attributeCodes env h var, ∃ a ∈ h.attributes, code = a.emit env var := by
    intro code hcode
    unfold attributeCodes at hcode
    split at hcode
    · cases hcode
    · obtain ⟨a, ha, rfl⟩ := List.mem_map.mp hcode
      exact ⟨a, ha, rfl⟩
  unfold attributeStmts at hstmt
  split at hstmt
  · obtain ⟨code, hcode, hstmt⟩ := List.mem_filterMap.mp hstmt
    obtain ⟨a, ha, rfl⟩ := hcodes code hcode
    exact ⟨a, ha, (AttributeCode.toStmt_of_statement? hstmt).symm⟩
  · obtain ⟨code, hcode, rfl⟩ := List.mem_map.mp hstmt
    obtain ⟨a, ha, rfl⟩ := hcodes code hcode
    exact ⟨a, ha, rfl⟩

/-! ## Emitted code is those lines -/

theorem Head.requireIdentifier_eq_ok {h : Head} {var : String}
    (hok : h.requireIdentifier = .ok var) : h.identifier = some var ∧ var ≠ "" := by
  unfold requireIdentifier at hok
  split at hok
  · rename_i x hx
    split at hok
    · cases hok
    · rename_i hne
      cases hok
      exact ⟨hx, hne⟩
  · cases hok

theorem Head.identifierText_of_requireIdentifier {h : Head} {var : String}
    (hok : h.requireIdentifier = .ok var) : h.identifierText = var := by
  rw [identifierText, (requireIdentifier_eq_ok hok).1, Option.getD_some]

theorem Emit.includeTarget_eq_ok {env : Env} {source : String}
    {target : String × Java.TypeName} (hok : Emit.includeTarget env source = .ok target) :
    env.scope.controllers.get? source = some target.1
      ∧ env.scope.factories.get? source = some target.2 := by
  unfold includeTarget at hok
  split at hok
  · rename_i controller factory hc hf
    cases hok
    exact ⟨hc, hf⟩
  · cases hok

/-- The fragment of an element that has code. -/
def Element.fragment? (env : Env) (place : Place) (e : Element) : Option Fragment :=
  if e.head.needsName then some ⟨e.head.identifierText, (e.lines env place).map Line.stmt⟩
  else none

namespace Element

mutual

theorem emit_eq_ok (env : Env) (place : Place) :
    ∀ (e : Element) {fragment : Option Fragment}, e.emit env place = .ok fragment →
      fragment = e.fragment? env place
  | mk h cs, fragment, hok => by
      rw [emit] at hok
      split at hok
      · rename_i controller hkind
        obtain ⟨var, hvar, hok⟩ := bind_eq_ok.mp hok
        obtain ⟨children, hchildren, hok⟩ := bind_eq_ok.mp hok
        cases hok
        obtain rfl := Head.identifierText_of_requireIdentifier hvar
        rw [fragment?, if_pos (by simp [head, Head.needsName, Head.isObject, hkind]), lines, hkind]
        simp only [head, Emit.objectCode, List.map_append, Line.map_stmt_plain,
          (emitAll_eq_ok env _ cs hchildren).1, List.cons_append, List.append_assoc]
      · rename_i source hkind
        obtain ⟨⟨controller, factory⟩, htarget, hok⟩ := bind_eq_ok.mp hok
        obtain ⟨var, hvar, hok⟩ := bind_eq_ok.mp hok
        cases hok
        obtain rfl := Head.identifierText_of_requireIdentifier hvar
        obtain ⟨hc, hf⟩ := Emit.includeTarget_eq_ok htarget
        rw [fragment?, if_pos (by simp [head, Head.needsName, Head.isObject, hkind]), lines, hkind]
        simp only [head, hc, hf, Option.getD_some, Line.map_stmt_plain]
      · rename_i kind hkind
        obtain ⟨var, hvar, hok⟩ := bind_eq_ok.mp hok
        obtain ⟨children, hchildren, hok⟩ := bind_eq_ok.mp hok
        cases hok
        obtain rfl := Head.identifierText_of_requireIdentifier hvar
        rw [fragment?,
          if_pos (by simp [head, Head.needsName, Head.isProperty, hkind]), lines, hkind]
        simp only [head, Emit.propertyCode, (emitAll_eq_ok env _ cs hchildren).2]
      · rename_i hdecl hinc hprop
        obtain ⟨children, -, hok⟩ := bind_eq_ok.mp hok
        cases hok
        rw [fragment?, if_neg]
        unfold head Head.needsName Head.isObject Head.isProperty
        split <;> simp_all

/-- The fragments of children, as a declaration puts them together and as
a property does. -/
theorem emitAll_eq_ok (env : Env) (owner : String) :
    ∀ (es : List Element) {fragments : List Fragment}, emitAll env owner es = .ok fragments →
      fragments.flatMap Fragment.code = (linesAll env owner es).map Line.stmt
        ∧ ∀ wire : String → Stmt, (fragments.flatMap fun c => c.code ++ [wire c.var])
          = (linesWired env owner wire es).map Line.stmt
  | [], fragments, hok => by
      rw [emitAll] at hok
      cases hok
      exact ⟨rfl, fun _ => rfl⟩
  | e :: es, fragments, hok => by
      rw [emitAll] at hok
      obtain ⟨first, hfirst, hok⟩ := bind_eq_ok.mp hok
      obtain ⟨rest, hrest, hok⟩ := bind_eq_ok.mp hok
      cases hok
      obtain ⟨hall, hwired⟩ := emitAll_eq_ok env owner es hrest
      rw [emit_eq_ok env _ e hfirst, fragment?]
      cases hneeds : e.head.needsName with
      | true =>
          constructor
          · simp [linesAll, hall]
          · intro wire
            simp [hneeds, linesWired, hwired]
      | false =>
          have hnil := lines_eq_nil env (.inside owner) hneeds
          constructor
          · simp [linesAll, hall, hnil]
          · intro wire
            simp [hneeds, linesWired, hwired, hnil]

end

end Element

theorem Document.body_eq_lines {env : Env} {root : Element} {stmts : List Stmt}
    (hobj : root.head.isObject = true) (hok : Document.body env root = .ok stmts) :
    stmts = (root.lines env .root).map Line.stmt := by
  obtain ⟨fragment, hemit, hok⟩ := bind_eq_ok.mp hok
  cases hok
  rw [root.emit_eq_ok env .root hemit, Element.fragment?, if_pos (by simp [Head.needsName, hobj])]
  rfl

end FxmlCodegen
