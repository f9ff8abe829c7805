import FxmlCodegen.Proofs.CompileOutcome
import FxmlCodegen.Proofs.EmittedLines

/-!
# A method returns once, at its end

The code of a document root ends in a trailer: the call of the initialize
hook and the return of the root. Only the place of an element decides
whether it gets one (`Emit.trailer`), and every child is emitted inside
another element, whatever its kind and that of its parent. So the code of
a nested element never returns (`Element.emit_runsOn`), and the body of a
method has its one return at the very end (`Document.compile_returnsOnce`).
-/

namespace FxmlCodegen

open Java (Expr Method Sources Stmt)

def Java.Stmt.isReturn : Stmt → Bool
  | .ret _ => true
  | _ => false

/-- No statement returns, so control comes to what follows them. -/
def RunsOn (stmts : List Stmt) : Prop := ∀ stmt ∈ stmts, stmt.isReturn = false

namespace RunsOn

theorem cons {stmt : Stmt} {stmts : List Stmt} (hstmt : stmt.isReturn = false)
    (hstmts : RunsOn stmts) : RunsOn (stmt :: stmts) :=
  List.forall_mem_cons.mpr ⟨hstmt, hstmts⟩

theorem append {stmts stmts' : List Stmt} (h : RunsOn stmts) (h' : RunsOn stmts') :
    RunsOn (stmts ++ stmts') :=
  List.forall_mem_append.mpr ⟨h, h'⟩

theorem flatMap {fragments : List Fragment} {code : Fragment → List Stmt}
    (h : ∀ f ∈ fragments, RunsOn (code f)) : RunsOn (fragments.flatMap code) := by
  intro stmt hstmt
  obtain ⟨f, hf, hcode⟩ := List.mem_flatMap.mp hstmt
  exact h f hf stmt hcode

end RunsOn

/-! ## The code of one element -/

theorem Attribute.isReturn_emit (env : Env) (owner : String) (a : Attribute) :
    (a.emit env owner).toStmt.isReturn = false := by
  obtain ⟨e, he⟩ := a.exists_toStmt_emit env owner
  rw [he]
  rfl

namespace Emit

theorem isReturn_construction (env : Env) (h : Head) (var : String) :
    (construction env h var).isReturn = false := by
  unfold construction
  dsimp only
  split
  · rfl
  · rfl

/-- What an object's code has between the construction and the trailer. -/
def interior (env : Env) (h : Head) (var : String) (children : List Fragment) : List Stmt :=
  attributeStmts env h var ++ children.flatMap Fragment.code

theorem runsOn_interior (env : Env) (h : Head) (var : String) {children : List Fragment}
    (hchildren : ∀ c ∈ children, RunsOn c.code) : RunsOn (interior env h var children) := by
  refine RunsOn.append (fun stmt hstmt => ?_) (RunsOn.flatMap hchildren)
  obtain ⟨a, -, rfl⟩ := exists_emit_of_mem_attributeStmts hstmt
  exact a.isReturn_emit env var

theorem runsOn_objectCode (env : Env) (owner : String) (h : Head) (var : String)
    {children : List Fragment} (hchildren : ∀ c ∈ children, RunsOn c.code) :
    RunsOn (objectCode env (.inside owner) h var children) := by
  have hnone : RunsOn (trailer env var (.inside owner)) := fun _ hstmt => nomatch hstmt
  exact ((runsOn_interior env h var hchildren).append hnone).cons (isReturn_construction env h var)

theorem runsOn_includeCode (env : Env) (h : Head) (var : String)
    (controller factory : Java.TypeName) : RunsOn (includeCode env h var controller factory) := by
  refine RunsOn.cons rfl fun stmt hstmt => ?_
  obtain ⟨a, -, rfl⟩ := List.mem_map.mp hstmt
  exact a.isReturn_emit env var

theorem runsOn_propertyCode (owner : String) (kind : PropertyKind) (property : String)
    {children : List Fragment} (hchildren : ∀ c ∈ children, RunsOn c.code) :
    RunsOn (propertyCode owner kind property children) :=
  RunsOn.flatMap fun c hc => (hchildren c hc).append (RunsOn.cons rfl fun _ hstmt => nomatch hstmt)

end Emit

/-! ## The code of a tree -/

namespace Element

theorem emit_declaration {env : Env} {place : Place} {h : Head} {cs : List Element}
    {controller : Option String} {fragment : Option Fragment}
    (hkind : h.kind = .declaration controller) (hok : (mk h cs).emit env place = .ok fragment) :
    ∃ var children, h.identifier = some var ∧ emitAll env var cs = .ok children
      ∧ fragment = some ⟨var, Emit.objectCode env place h var children⟩ := by
  rw [emit, hkind] at hok
  obtain ⟨var, hvar, hok⟩ := bind_eq_ok.mp hok
  obtain ⟨children, hchildren, hok⟩ := bind_eq_ok.mp hok
  cases hok
  exact ⟨var, children, (Head.requireIdentifier_eq_ok hvar).1, hchildren, rfl⟩

mutual

/-- An element inside another has no return in its code, of whatever kind
the two are. -/
theorem emit_runsOn (env : Env) (owner : String) :
    ∀ (e : Element) {f : Fragment}, e.emit env (.inside owner) = .ok (some f) → RunsOn f.code
  | mk h cs, f, hok => by
      -- Of either kind that has children, they are emitted inside its variable, so the
      -- induction hypothesis for the list is about them.
      cases hkind : h.kind with
      | declaration controller =>
          obtain ⟨var, children, -, hchildren, hf⟩ := emit_declaration hkind hok
          cases hf
          exact Emit.runsOn_objectCode env owner h var (emitAll_runsOn env var cs hchildren)
      | «include» source =>
          rw [emit, hkind] at hok
          obtain ⟨⟨controller, factory⟩, -, hok⟩ := bind_eq_ok.mp hok
          obtain ⟨var, -, hok⟩ := bind_eq_ok.mp hok
          cases hok
          exact Emit.runsOn_includeCode env h var controller factory
      | property kind =>
          rw [emit, hkind] at hok
          obtain ⟨var, -, hok⟩ := bind_eq_ok.mp hok
          obtain ⟨children, hchildren, hok⟩ := bind_eq_ok.mp hok
          cases hok
          exact Emit.runsOn_propertyCode owner kind h.name (emitAll_runsOn env var cs hchildren)
      | _ =>
          rw [emit, hkind] at hok
          obtain ⟨children, -, hok⟩ := bind_eq_ok.mp hok
          cases hok

theorem emitAll_runsOn (env : Env) (owner : String) :
    ∀ (es : List Element) {fragments : List Fragment}, emitAll env owner es = .ok fragments →
      ∀ f ∈ fragments, RunsOn f.code
  | [], fragments, hok, f, hf => by
      rw [emitAll] at hok
      cases hok
      cases hf
  | e :: es, fragments, hok, f, hf => by
      rw [emitAll] at hok
      obtain ⟨first, hfirst, hok⟩ := bind_eq_ok.mp hok
      obtain ⟨rest, hrest, hok⟩ := bind_eq_ok.mp hok
      cases hok
      rcases List.mem_append.mp hf with hf | hf
      · rw [Option.mem_toList] at hf
        exact emit_runsOn env owner e (hf ▸ hfirst)
      · exact emitAll_runsOn env owner es hrest f hf

end

end Element

/-! ## The method of a document -/

namespace Document

/-- The body of a root that is an object. -/
theorem body_of_declaration {env : Env} {root : Element} {controller : Option String}
    {stmts : List Stmt} (hkind : root.head.kind = .declaration controller)
    (hok : body env root = .ok stmts) :
    ∃ var middle, root.head.identifier = some var ∧ RunsOn middle
      ∧ stmts = Emit.construction env root.head var :: (middle ++ Emit.trailer env var .root) := by
  obtain ⟨h, cs⟩ := root
  obtain ⟨fragment, hemit, hok⟩ := bind_eq_ok.mp hok
  obtain ⟨var, children, hvar, hchildren, rfl⟩ := Element.emit_declaration hkind hemit
  cases hok
  exact ⟨var, Emit.interior env h var children, hvar,
    Emit.runsOn_interior env h var (Element.emitAll_runsOn env var cs hchildren), rfl⟩

/-- A method that compiling gives constructs the root, runs on to its last
two statements, and there calls the initialize hook and returns the root.
The code of an element inside another never returns. -/
theorem compile_returnsOnce :
    (∀ (options : Options) (handler : Handler) (d : Document) (scope : Scope) (sources : Sources)
        (method : Method), (d.compile options handler scope sources).result = .ok method →
      ∃ root controller var middle, d.root = some root
        ∧ root.head.kind = .declaration (some controller) ∧ root.head.identifier = some var
        ∧ (∀ stmt ∈ middle, stmt.isReturn = false)
        ∧ method.body
          = (let made := Expr.new root.head.name
              (Emit.constructorArgs (.compiling options handler scope controller) root.head var)
            if root.head.fxId = some var then .expr (.assign (.name var) made)
            else .declare root.head.name var made)
            :: (middle ++ [.expr (.call none options.initializeHook [.null, .name options.bundle]),
              .ret (.name var)]))
    ∧ ∀ (env : Env) (owner : String) (e : Element) (f : Fragment),
        e.emit env (.inside owner) = .ok (some f) → ∀ stmt ∈ f.code, stmt.isReturn = false := by
  refine ⟨fun options handler d scope sources method hok => ?_,
    fun env owner e f hok => e.emit_runsOn env owner hok⟩
  obtain ⟨root, controller, stmts, -, hroot, hbody, -, rfl, -, -⟩ := compile_ok hok
  obtain ⟨hroot, hkind⟩ := rootObject?_eq_some hroot
  obtain ⟨var, middle, hvar, hmiddle, hstmts⟩ := body_of_declaration hkind hbody
  exact ⟨root, controller, var, middle, hroot, hkind, hvar, hmiddle, hstmts⟩

/-- An element that could be a root itself: an object with a controller. -/
def nestedRoot : Element :=
  .leaf
    { kind := .declaration (some "com.example.Main"), name := "Pane", identifier := some "pane" }

/-- A view that has it inside a property of its own root. -/
def nestedRootView : Document where
  name := "Main"
  root := some <| .mk
    { kind := .declaration (some "com.example.Main"), name := "VBox", identifier := some "vBox" } [
      .mk { kind := .property .instanceProperty, name := "children", identifier := some "list" } [
        nestedRoot]]

theorem compile_returnsOnce_nestedRoot :
    (∃ method middle, (nestedRootView.compile {} Handler.methodRef {}
          (Sources.declare {} "com.example.Main")).result = .ok method
        ∧ (∀ stmt ∈ middle, stmt.isReturn = false)
        ∧ method.body = .declare "VBox" "vBox" (.new "VBox" [])
          :: (middle ++ [.expr (.call none "initialize" [.null, .name "bundle"]),
            .ret (.name "vBox")]))
      ∧ ∃ f, nestedRoot.emit {} (.inside "list") = .ok (some f)
        ∧ ∀ stmt ∈ f.code, stmt.isReturn = false := by
  constructor
  · obtain ⟨root, controller, var, middle, hroot, -, hvar, hmiddle, hbody⟩ :=
      compile_returnsOnce.1 {} Handler.methodRef nestedRootView {}
        (Sources.declare {} "com.example.Main") _ rfl
    cases hroot
    cases hvar
    exact ⟨_, middle, rfl, hmiddle, hbody⟩
  · exact ⟨_, rfl, compile_returnsOnce.2 {} "list" nestedRoot _ rfl⟩

end Document

end FxmlCodegen
