import FxmlCodegen.Proofs.ClosedBatch
import FxmlCodegen.Proofs.ObjectGraph

/-!
# What an include becomes

The statements in the method of a document that put an object into a
variable or a field, taken out of it in order, belong to its constructed
elements in document order (`Element.filter_isConstruction_lines`). So do
the variable declarations among them: one is there for each include and
one for each object that is not a field of the controller
(`Element.filter_isDeclaration_lines`). No other code declares a variable.

The declaration of an include fetches the object from the factory method
of the document it names. That document is the last of the batch with the
source as its key, and both the controller on which the method is called
and the declared type, its root type, are taken from it
(`Document.Declares`). The two come from separate tables, which each
document of that key has written to; that they go together rests on every
document having a controller, as it does in a batch that compiles.
-/

namespace FxmlCodegen

open Java (Expr Line Method Sources Stmt)

/-! ## Statements that construct nothing -/

/-- The statement puts an object into a variable or a field. -/
def Java.Stmt.isConstruction : Stmt → Bool
  | .declare _ _ _ => true
  | .expr (.assign _ (.new _ _)) => true
  | _ => false

def Java.Stmt.isDeclaration : Stmt → Bool
  | .declare _ _ _ => true
  | _ => false

theorem Java.Expr.exists_staticSetter_eq_call (dotted : String) (target value : Expr) :
    ∃ scope name args, Expr.staticSetter dotted target value = .call scope name args := by
  unfold staticSetter
  split <;> exact ⟨_, _, _, rfl⟩

theorem Attribute.isConstruction_emit (env : Env) (owner : String) (a : Attribute) :
    (a.emit env owner).toStmt.isConstruction = false := by
  unfold Attribute.emit
  split
  · rfl
  · split
    · rfl
    · cases a.kind with
      | eventHandler => rfl
      | instanceProperty => rfl
      | staticProperty =>
          obtain ⟨scope, name, args, hcall⟩ :=
            Expr.exists_staticSetter_eq_call a.name (.name owner) (a.resolve env)
          simp only [AttributeCode.toStmt, hcall]
          rfl

namespace Emit

theorem isConstruction_attributeStmts (env : Env) (h : Head) (var : String) :
    ∀ stmt ∈ attributeStmts env h var, stmt.isConstruction = false := by
  intro stmt hstmt
  obtain ⟨a, -, rfl⟩ := exists_emit_of_mem_attributeStmts hstmt
  exact a.isConstruction_emit env var

theorem isConstruction_trailer (env : Env) (var : String) (place : Place) :
    ∀ stmt ∈ trailer env var place, stmt.isConstruction = false := by
  cases place with
  | root => simp [trailer, Stmt.isConstruction]
  | inside owner => simp [trailer]

theorem isConstruction_wiring (owner : String) (kind : PropertyKind) (property var : String) :
    (wiring owner kind property var).isConstruction = false := by
  unfold wiring
  split
  · rfl
  · cases kind with
    | instanceProperty => rfl
    | staticProperty =>
        obtain ⟨scope, name, args, hcall⟩ :=
          Expr.exists_staticSetter_eq_call property (.name owner) (.name var)
        simp only [hcall]
        rfl

end Emit

/-- None of the statements constructs. -/
theorem filter_isConstruction_eq_nil {stmts : List Stmt}
    (hnone : ∀ stmt ∈ stmts, stmt.isConstruction = false) :
    stmts.filter Stmt.isConstruction = [] :=
  List.filter_eq_nil_iff.mpr fun stmt hstmt => by simp [hnone stmt hstmt]

/-! ## The constructions of a document -/

namespace Head

/-- The element gets a variable of its own: an include does, and an object
whose variable is not its `fx:id`, which is a field. -/
def declaresVar (h : Head) : Bool := h.source?.isSome || h.fxId ≠ some h.identifierText

/-- The declaration of that variable. -/
def declaration (env : Env) (h : Head) : Stmt :=
  match h.source? with
  | some source =>
    .declare ((env.scope.factories.get? source).getD "") h.identifierText
      (Emit.includeCall env.options ((env.scope.controllers.get? source).getD ""))
  | none => .declare h.name h.identifierText (.new h.name (Emit.constructorArgs env h h.identifierText))

/-- The statement that constructs the element, in its variable or its
field. -/
def opening (env : Env) (h : Head) : Stmt :=
  match h.source? with
  | some _ => h.declaration env
  | none => Emit.construction env h h.identifierText

theorem isConstruction_opening (env : Env) (h : Head) : (h.opening env).isConstruction = true := by
  unfold opening declaration Emit.construction
  cases h.source? with
  | some source => rfl
  | none =>
      simp only
      split <;> rfl

theorem isDeclaration_opening (env : Env) (h : Head) :
    (h.opening env).isDeclaration = h.declaresVar := by
  unfold opening declaration declaresVar Emit.construction
  cases h.source? with
  | some source => rfl
  | none =>
      by_cases hfield : h.fxId = some h.identifierText
      · simp [hfield, Stmt.isDeclaration]
      · simp [hfield, Stmt.isDeclaration]

theorem opening_of_declaresVar (env : Env) {h : Head} (hvar : h.declaresVar = true) :
    h.opening env = h.declaration env := by
  unfold opening declaration Emit.construction
  cases hsource : h.source? with
  | some source => rfl
  | none => simp_all [declaresVar]

end Head

namespace Element

mutual

/-- The constructions among the lines of an element are those of what is
constructed in it. -/
theorem filter_isConstruction_lines (env : Env) (place : Place) :
    ∀ e : Element, ((e.lines env place).map Line.stmt).filter Stmt.isConstruction
      = e.constructed.map (Head.opening env)
  | mk h cs => by
      rw [lines, constructed]
      cases hkind : h.kind with
      | declaration controller =>
          have hopening : h.opening env = Emit.construction env h h.identifierText := by
            rw [Head.opening, Head.source?, hkind]
          have hattributes :=
            filter_isConstruction_eq_nil (Emit.isConstruction_attributeStmts env h h.identifierText)
          have htrailer :=
            filter_isConstruction_eq_nil (Emit.isConstruction_trailer env h.identifierText place)
          rw [List.map_append, List.map_append, Line.map_stmt_plain, Line.map_stmt_plain,
            ← hopening, List.filter_append, List.filter_append,
            List.filter_cons_of_pos (h.isConstruction_opening env), hattributes, htrailer,
            filter_isConstruction_linesAll env _ cs, List.append_nil]
          rfl
      | «include» source =>
          have hsource : h.source? = some source := Head.source?_eq_some.mpr hkind
          have hattributes : (h.attributes.map fun a => (a.emit env h.identifierText).toStmt).filter
              Stmt.isConstruction = [] := by
            refine filter_isConstruction_eq_nil fun stmt hstmt => ?_
            obtain ⟨a, -, rfl⟩ := List.mem_map.mp hstmt
            exact a.isConstruction_emit env _
          rw [Line.map_stmt_plain, Emit.includeCode, List.filter_cons_of_pos rfl, hattributes]
          simp only [List.map_cons, List.map_nil, Head.opening, Head.declaration, hsource]
      | property kind =>
          exact filter_isConstruction_linesWired env _ (Emit.isConstruction_wiring _ kind h.name) cs
      | _ => rfl

theorem filter_isConstruction_linesAll (env : Env) (owner : String) :
    ∀ es : List Element, ((linesAll env owner es).map Line.stmt).filter Stmt.isConstruction
      = (constructedAll es).map (Head.opening env)
  | [] => rfl
  | e :: es => by
      rw [linesAll, constructedAll, List.map_append, List.filter_append, List.map_append,
        filter_isConstruction_lines env _ e, filter_isConstruction_linesAll env owner es]

theorem filter_isConstruction_linesWired (env : Env) (owner : String) {wire : String → Stmt}
    (hwire : ∀ var, (wire var).isConstruction = false) :
    ∀ es : List Element, ((linesWired env owner wire es).map Line.stmt).filter Stmt.isConstruction
      = (constructedAll es).map (Head.opening env)
  | [] => rfl
  | e :: es => by
      have hline : ((if e.head.needsName then [⟨wire e.head.identifierText, true⟩] else []
          : List Line).map Line.stmt).filter Stmt.isConstruction = [] := by
        split
        · simp [hwire]
        · rfl
      rw [linesWired, constructedAll, List.map_append, List.map_append, List.filter_append,
        List.filter_append, hline, List.nil_append, List.map_append,
        filter_isConstruction_lines env _ e, filter_isConstruction_linesWired env owner hwire es]

end

/-- The declarations among the lines of an element are those of what is
constructed in it and no field. -/
theorem filter_isDeclaration_lines (env : Env) (place : Place) (e : Element) :
    ((e.lines env place).map Line.stmt).filter Stmt.isDeclaration
      = (e.constructed.filter Head.declaresVar).map (Head.declaration env) := by
  have hboth : ∀ stmt : Stmt,
      (stmt.isDeclaration && stmt.isConstruction) = stmt.isDeclaration := fun stmt => by
    cases stmt <;> rfl
  calc ((e.lines env place).map Line.stmt).filter Stmt.isDeclaration
      = (((e.lines env place).map Line.stmt).filter Stmt.isConstruction).filter
          Stmt.isDeclaration := by simp only [List.filter_filter, hboth]
    _ = (e.constructed.filter Head.declaresVar).map (Head.opening env) := by
        rw [filter_isConstruction_lines, List.filter_map]
        simp only [Function.comp_def, Head.isDeclaration_opening]
    _ = (e.constructed.filter Head.declaresVar).map (Head.declaration env) :=
        List.map_congr_left fun h hh => Head.opening_of_declaresVar env (List.mem_filter.mp hh).2

mutual

/-- What is constructed is not below an include. -/
theorem constructed_subset_reached : ∀ e : Element, e.constructed ⊆ e.reached
  | mk h cs => by
      rw [constructed]
      cases hkind : h.kind with
      | declaration controller =>
          rw [reached_of_none (by rw [Head.source?, hkind])]
          exact List.cons_subset_cons h (constructedAll_subset_reachedAll cs)
      | «include» source =>
          rw [reached_of_some (Head.source?_eq_some.mpr hkind)]
          exact List.Subset.refl _
      | property kind =>
          rw [reached_of_none (by rw [Head.source?, hkind])]
          exact List.subset_cons_of_subset h (constructedAll_subset_reachedAll cs)
      | _ => exact List.nil_subset _

theorem constructedAll_subset_reachedAll :
    ∀ es : List Element, constructedAll es ⊆ reachedAll es
  | [] => List.nil_subset _
  | e :: es => by
      rw [constructedAll, reachedAll_cons]
      exact List.append_subset.mpr
        ⟨List.Subset.trans (constructed_subset_reached e) (List.subset_append_left _ _),
          List.Subset.trans (constructedAll_subset_reachedAll es) (List.subset_append_right _ _)⟩

end

end Element

/-! ## Whose declarations they are -/

namespace Document

variable {options : Options} {handler : Handler} {ds : List Document} {sources : Sources}

/-- `F x = ((C) facade.factory().call(C.class)).create()`, with the names
of the options. -/
def fetch (options : Options) (type controller : Java.TypeName) (var : String) : Stmt :=
  .declare type var (options.viewOf controller)

/-- The statement declares the variable of the element. For an include it
fetches the object from the last document of the batch with that key: type
and controller are those of its root. -/
def Declares (options : Options) (ds : List Document) (h : Head) (stmt : Stmt) : Prop :=
  ∃ var ∈ h.identifier,
    match h.source? with
    | some source => ∃ target root controller, lastIncluded? ds source = some target
        ∧ target.rootObject? = some (root, some controller)
        ∧ stmt = fetch options root.head.name controller var
    | none => ∃ args, stmt = .declare h.name var (.new h.name args)

/-- The constructed elements that get a variable of their own. -/
def declaring (d : Document) : List Head :=
  match d.root with
  | some root => root.constructed.filter Head.declaresVar
  | none => []

/-- An element that is fit for code in the scope of a batch is declared by
the document of the batch that it names. -/
theorem declares_declaration
    (hroots : ∀ d ∈ ds, d.Includable)
    {h : Head} (hobject : h.isObject = true) (hfit : h.Fit (identifyAll ds {}).2)
    (controller : String) :
    Declares options ds h
      (h.declaration (.compiling options handler (identifyAll ds {}).2 controller)) := by
  obtain ⟨var, hvar, -⟩ := hfit.named (by simp [Head.needsName, hobject])
  have htext : h.identifierText = var := by rw [Head.identifierText, hvar, Option.getD_some]
  refine ⟨var, hvar, ?_⟩
  cases hsource : h.source? with
  | none =>
      let env := Env.compiling options handler (identifyAll ds {}).2 controller
      exact ⟨Emit.constructorArgs env h var, by simp only [Head.declaration, hsource, htext, env]⟩
  | some source =>
      obtain ⟨d, hd, rfl⟩ := (exists_target_iff hroots).mp (hfit.targeted source hsource)
      obtain ⟨target, htarget⟩ := exists_lastIncluded? hd
      obtain ⟨root, c, hroot, hc, hf⟩ := lastIncluded?_offers hroots htarget {}
      rw [(lastIncluded?_eq_some htarget).2.1] at hc hf
      refine ⟨target, root, c, htarget, hroot, ?_⟩
      simp only [Head.declaration, hsource, htext, Env.compiling, Scope.clearNames, hc, hf,
        Option.getD_some]
      rfl

/-- The variable declarations in a method, in order, are those of the
document. -/
theorem Makes.declares {d : Document} {method : Method}
    (hroots : ∀ d ∈ ds, d.Includable)
    (hmakes : d.Makes options handler (identifyAll ds {}).2 method) :
    List.Forall₂ (Declares options ds) d.declaring (method.body.filter Stmt.isDeclaration) := by
  obtain ⟨root, controller, stmts, hroot, hbody, rfl⟩ := hmakes
  obtain ⟨hd, hkind⟩ := rootObject?_eq_some hroot
  have hfit := (body_ok_iff _ root).mp ⟨stmts, hbody⟩
  have hlines := body_eq_lines (by rw [Head.isObject, hkind]) hbody
  show List.Forall₂ _ _ (stmts.filter Stmt.isDeclaration)
  rw [declaring, hd, hlines, Element.filter_isDeclaration_lines, List.forall₂_map_right_iff,
    List.forall₂_same]
  intro h hh
  have hmem : h ∈ root.constructed := List.mem_of_mem_filter hh
  exact declares_declaration hroots (root.isObject_of_mem_constructed h hmem)
    (fit_compiling_iff.mp (hfit h (root.constructed_subset_reached hmem))) controller

/-- In a batch that compiles, the variable declarations in the method of
each document are, in order, those of its constructed elements, and each
include among these is fetched from the last document of the batch that it
names. -/
theorem compileBatch_declares {methods : List Method}
    (hok : (compileBatch options handler ds sources).2.result = .ok methods) {i : Nat}
    {d : Document} (hd : ds[i]? = some d) :
    ∃ method, methods[i]? = some method
      ∧ List.Forall₂ (Declares options ds) d.named.declaring
        (method.body.filter Stmt.isDeclaration) := by
  obtain ⟨hall, -⟩ := compileBatch_ok hok
  obtain ⟨method, hmethod, hmakes, -⟩ := hall.getElem? hd
  exact ⟨method, hmethod, hmakes.declares hall.includable⟩

theorem compileBatch_declares_namesakes :
    ∃ methods, (compileBatch {} Handler.methodRef namesakes namesakeSources).2.result = .ok methods
      ∧ ∃ d method, namesakes[0]? = some d ∧ methods[0]? = some method
        ∧ d.named.declaring.map (fun h => (h.identifierText, h.source?))
          = [("vBox", none), ("panel", some "Panel.fxml"), ("label", none),
            ("include1", some "Main.fxml")]
        ∧ (lastIncluded? namesakes "Panel.fxml").bind controller? = some "com.example.New"
        ∧ List.Forall₂ (Declares {} namesakes) d.named.declaring
          (method.body.filter Stmt.isDeclaration) := by
  obtain ⟨methods, hok⟩ : ∃ methods,
      (compileBatch {} Handler.methodRef namesakes namesakeSources).2.result = .ok methods := ⟨_, rfl⟩
  obtain ⟨method, hmethod, hdeclares⟩ :=
    @compileBatch_declares {} Handler.methodRef namesakes namesakeSources methods hok 0 _ rfl
  exact ⟨methods, hok, _, method, rfl, hmethod, by decide +kernel, by decide, hdeclares⟩

end Document

end FxmlCodegen
