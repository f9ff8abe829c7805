import FxmlCodegen.Proofs.CompileOutcome
import FxmlCodegen.Proofs.EmittedLines
import FxmlCodegen.Proofs.ObjectGraph
import FxmlCodegen.Proofs.UniqueNames
import Mathlib.Data.List.Basic

/-!
# Compiled methods build the graph

Running the code of a compiled document gives the object graph of its
tree. The graph is a function of the tree as it came
(`Element.objects`), the code belongs to the named tree, and names are all
that can go wrong between the two: code refers to objects by variables,
the graph by position.

So each piece of code is run from any machine in which its variables are
still free and its owner, if it changes one, is bound (`Machine.Ready`).
It then leaves that machine grown by its own objects, with its effects
added to the owner and nothing else touched (`Machine.grow`), and pieces
compose:

- attributes change their object in order (`run_attributes`);
- a declaration constructs, applies its attributes and builds its children
  (`run_declaration`), an include fetches (`run_include`);
- children come one after the other, and those of a property are linked
  to the owner right after they are built (`run_linesAll`,
  `run_linesWired`).

The variables of a document differ by uniqueness of names, so the whole
body runs from an empty machine (`run_root`). Properties directly inside
properties are left out: the outer one would wire a variable that no code
binds.
-/

namespace FxmlCodegen

open Java (Call Effect Expr Line Machine Method Object Sources Stmt)

/-! ## Single statements -/

theorem Java.Expr.action_staticSetter (dotted owner : String) (value : Expr) :
    (Expr.staticSetter dotted (.name owner) value).action
      = .apply owner (.ofStatic dotted) value := by
  unfold Expr.staticSetter Call.ofStatic
  cases Text.cutLast '.' dotted with
  | none => rfl
  | some cut =>
      obtain ⟨type, property⟩ := cut
      by_cases htype : type = ""
      · rw [htype]
        rfl
      · simp only [Expr.action_static, setterName]

theorem Emit.action_construction (env : Env) (h : Head) (var : String) :
    (Emit.construction env h var).action
      = .bind var h.name (.new h.name (Emit.constructorArgs env h var)) := by
  unfold Emit.construction
  dsimp only
  split <;> rfl

theorem Emit.action_wiring (owner : String) (kind : PropertyKind) (property var : String) :
    (Emit.wiring owner kind property var).action
      = .apply owner (kind.call property) (.name var) := by
  unfold Emit.wiring PropertyKind.call
  rw [← Emit.listProperties]
  by_cases hlist : property ∈ Emit.listProperties
  · rw [if_pos hlist]
    simp only [List.contains_iff_mem.mpr hlist, if_true]
    rfl
  · rw [if_neg hlist]
    simp only [List.contains_iff_mem, hlist, if_false]
    cases kind with
    | instanceProperty => rfl
    | staticProperty => exact Expr.action_staticSetter property owner (.name var)

/-- The code of an attribute either changes its object as the attribute
says, or opens the stream of a `url`. -/
theorem Attribute.emit_cases (env : Env) (owner : String) (a : Attribute) :
    (a.name = "url" ∧ a.effect? env = none ∧ a.emit env owner = .value (a.resourceStream env))
    ∨ (a.name ≠ "url" ∧ ∃ call value stmt, a.effect? env = some ⟨call, .expr value⟩
      ∧ a.emit env owner = .statement stmt ∧ stmt.action = .apply owner call value) := by
  unfold Attribute.emit Attribute.effect?
  by_cases hstyle : a.name = "styleClass"
  · simp only [hstyle, beq_self_eq_true, if_true]
    exact Or.inr ⟨by decide, _, _, _, rfl, rfl, rfl⟩
  · by_cases hurl : a.name = "url"
    · refine Or.inl ⟨hurl, ?_, ?_⟩
      · rw [if_neg hstyle, if_pos hurl]
      · simp only [hurl, beq_self_eq_true, if_true]
        rfl
    · have hstyle' : (a.name == "styleClass") = false := beq_false_of_ne hstyle
      have hurl' : (a.name == "url") = false := beq_false_of_ne hurl
      simp only [hstyle, hurl, hstyle', hurl', if_false]
      refine Or.inr ⟨hurl, ?_⟩
      cases a.kind with
      | eventHandler =>
          rw [Attribute.handlerName, List.drop_one]
          exact ⟨_, _, _, rfl, rfl, rfl⟩
      | instanceProperty => exact ⟨_, _, _, rfl, rfl, rfl⟩
      | staticProperty => exact ⟨_, _, _, rfl, rfl, Expr.action_staticSetter _ _ _⟩

/-! ## Running single statements -/

namespace Java.Machine

/-- The machine stands inside the object with number `k`, bound to the
variable `owner`, and is about to bind `vars`, each for the first time. -/
structure Ready (m : Machine) (owner : String) (k : Nat) (vars : List String) : Prop where
  running : m.returned = none
  bound : m.store.lookup owner = some k
  inHeap : k < m.heap.length
  nodup : vars.Nodup
  unbound : ∀ x ∈ vars, m.store.lookup x = none

variable {m : Machine} {owner : String} {k : Nat} {vars : List String}

theorem Ready.owner_not_mem (h : m.Ready owner k vars) : owner ∉ vars := by
  intro hmem
  have hnone := h.unbound owner hmem
  rw [h.bound] at hnone
  cases hnone

theorem Ready.left {vars' : List String} (h : m.Ready owner k (vars ++ vars')) :
    m.Ready owner k vars :=
  ⟨h.running, h.bound, h.inHeap, (List.nodup_append.mp h.nodup).1,
    fun x hx => h.unbound x (List.mem_append_left vars' hx)⟩

/-- Code that binds the first of the variables leaves the machine ready
for the others. -/
theorem Ready.grow {vars' : List String} (h : m.Ready owner k (vars ++ vars'))
    (effects : List Effect) (objects : List Object) (evaluated : List Expr) :
    (m.grow k effects vars objects evaluated).Ready owner k vars' := by
  have hnot : owner ∉ vars := fun hmem => h.owner_not_mem (List.mem_append_left vars' hmem)
  obtain ⟨-, hnodup', hdisjoint⟩ := List.nodup_append.mp h.nodup
  refine ⟨h.running, ?_, ?_, hnodup', ?_⟩
  · rw [lookup_grow_of_not_mem _ _ _ _ _ hnot, h.bound]
  · rw [length_grow_heap]
    exact Nat.lt_add_right _ h.inHeap
  · intro x hx
    have hxnot : x ∉ vars := fun hmem => hdisjoint x hmem x hx rfl
    rw [lookup_grow_of_not_mem _ _ _ _ _ hxnot, h.unbound x (List.mem_append_right vars hx)]

/-- Code that binds nothing leaves it ready. -/
theorem Ready.grow_nil (h : m.Ready owner k vars) (effects : List Effect) (evaluated : List Expr) :
    (m.grow k effects [] [] evaluated).Ready owner k vars := by
  have hnil : m.Ready owner k ([] ++ vars) := h
  exact hnil.grow effects [] evaluated

/-- Binding a variable puts the machine inside the new object. -/
theorem ready_bind {x : String} (hrun : m.returned = none) (hnodup : (x :: vars).Nodup)
    (hunbound : ∀ y ∈ vars, m.store.lookup y = none) (type : TypeName) (init : Expr) :
    (m.bind x type init).Ready x m.heap.length vars := by
  obtain ⟨hnot, hnodup⟩ := List.nodup_cons.mp hnodup
  refine ⟨hrun, List.lookup_cons_self, ?_, hnodup, ?_⟩
  · rw [Machine.bind, List.length_append]
    exact Nat.lt_succ_self _
  · intro y hy
    have hne : y ≠ x := fun heq => hnot (heq ▸ hy)
    rw [Machine.bind, List.lookup_cons, beq_false_of_ne hne]
    exact hunbound y hy

theorem step_bind (hrun : m.returned = none) {stmt : Stmt} {x : String} {type : TypeName}
    {init : Expr} (haction : stmt.action = .bind x type init) :
    m.step ⟨stmt, false⟩ = .ok (m.bind x type init) := by
  rw [step, hrun, haction]
  rfl

theorem step_eval (k : Nat) (hrun : m.returned = none) {stmt : Stmt} {value : Expr}
    (haction : stmt.action = .eval value) :
    m.step ⟨stmt, false⟩ = .ok (m.grow k [] [] [] [value]) := by
  rw [step, hrun, haction, grow]
  simp [hrun]

theorem step_apply (hrun : m.returned = none) (hbound : m.store.lookup owner = some k)
    {stmt : Stmt} {call : Call} {value : Expr} (haction : stmt.action = .apply owner call value) :
    m.step ⟨stmt, false⟩ = .ok (m.grow k [⟨call, .expr value⟩] [] [] []) := by
  rw [step, hrun, haction, grow]
  simp [read, hbound, Machine.apply, pure, Except.pure, Bind.bind, Except.bind]

theorem step_wire (hrun : m.returned = none) (hbound : m.store.lookup owner = some k)
    {stmt : Stmt} {call : Call} {x : String} {n : Nat}
    (haction : stmt.action = .apply owner call (.name x)) (hx : m.store.lookup x = some n) :
    m.step ⟨stmt, true⟩ = .ok (m.grow k [⟨call, .object n⟩] [] [] []) := by
  rw [step, hrun, haction, grow]
  simp [read, readExpr, hbound, hx, Machine.apply, pure, Except.pure, Bind.bind, Except.bind]

theorem step_ret (hrun : m.returned = none) {x : String} {n : Nat}
    (hx : m.store.lookup x = some n) :
    m.step ⟨.ret (.name x), false⟩ = .ok { m with returned := some n } := by
  rw [step, hrun, Stmt.action]
  simp [readExpr, read, hx, pure, Except.pure, Bind.bind, Except.bind]

end Java.Machine

/-! ## Attributes -/

section Attributes

variable {owner : String} {k : Nat} {vars : List String}

/-- Attributes with each `url` as a statement: on includes and on most
declarations. -/
theorem run_attributes (env : Env) :
    ∀ (as : List Attribute) {m : Machine}, m.Ready owner k vars →
      Machine.run (Line.plain (as.map fun a => (a.emit env owner).toStmt)) m
        = .ok (m.grow k (as.filterMap (·.effect? env)) [] []
          ((as.filter (·.name = "url")).map (·.resourceStream env)))
  | [], m, _ => by
      rw [List.map_nil, List.filterMap_nil, List.filter_nil, List.map_nil, Machine.grow_nil]
      rfl
  | a :: as, m, hready => by
      rw [List.map_cons, Line.plain, List.map_cons]
      rcases a.emit_cases env owner with ⟨hurl, heff, hemit⟩ | ⟨hurl, call, value, stmt, heff, hemit, hact⟩
      · have hact : (Stmt.expr (a.resourceStream env)).action = .eval (a.resourceStream env) := rfl
        have hstep := Machine.step_eval k hready.running hact
        have hrest := run_attributes env as (hready.grow_nil [] [a.resourceStream env])
        rw [Machine.grow_grow hready.inHeap rfl] at hrest
        rw [hemit, AttributeCode.toStmt, Machine.run_cons hstep, List.filterMap_cons_none heff,
          List.filter_cons_of_pos (by simp [hurl])]
        exact hrest
      · have hstep := Machine.step_apply hready.running hready.bound hact
        have hrest := run_attributes env as (hready.grow_nil [⟨call, .expr value⟩] [])
        rw [Machine.grow_grow hready.inHeap rfl] at hrest
        rw [hemit, AttributeCode.toStmt, Machine.run_cons hstep, List.filterMap_cons_some heff,
          List.filter_cons_of_neg (by simp [hurl])]
        exact hrest

/-- Attributes without those that are `url`s: on an `Image`, whose
constructor takes them. -/
theorem run_attributes_image (env : Env) :
    ∀ (as : List Attribute) {m : Machine}, m.Ready owner k vars →
      Machine.run (Line.plain ((as.map (·.emit env owner)).filterMap AttributeCode.statement?)) m
        = .ok (m.grow k (as.filterMap (·.effect? env)) [] [] [])
  | [], m, _ => by
      rw [List.map_nil, List.filterMap_nil, List.filterMap_nil, Machine.grow_nil]
      rfl
  | a :: as, m, hready => by
      rw [List.map_cons]
      rcases a.emit_cases env owner with ⟨-, heff, hemit⟩ | ⟨-, call, value, stmt, heff, hemit, hact⟩
      · rw [hemit, List.filterMap_cons_none rfl, List.filterMap_cons_none heff]
        exact run_attributes_image env as hready
      · have hstep := Machine.step_apply hready.running hready.bound hact
        have hrest := run_attributes_image env as (hready.grow_nil [⟨call, .expr value⟩] [])
        rw [Machine.grow_grow hready.inHeap rfl] at hrest
        rw [hemit, List.filterMap_cons, AttributeCode.statement?, List.filterMap_cons_some heff,
          Line.plain, List.map_cons, Machine.run_cons hstep]
        exact hrest

theorem filterMap_value?_emit (env : Env) (owner : String) :
    ∀ as : List Attribute, (as.map (·.emit env owner)).filterMap AttributeCode.value?
      = (as.filter (·.name = "url")).map (·.resourceStream env)
  | [] => rfl
  | a :: as => by
      rw [List.map_cons, List.filterMap_cons, filterMap_value?_emit env owner as]
      rcases a.emit_cases env owner with ⟨hurl, -, hemit⟩ | ⟨hurl, call, value, stmt, -, hemit, -⟩
      · rw [hemit, List.filter_cons_of_pos (by simp [hurl])]
        rfl
      · rw [hemit, List.filter_cons_of_neg (by simp [hurl])]
        rfl

/-- The sides are given in the order of the constructor. -/
theorem Emit.insetsArgs_eq (h : Head) :
    Emit.insetsArgs h = [h.side "top", h.side "right", h.side "bottom", h.side "left"] := by
  have hside : ∀ name, Expr.double (((h.attribute? name).map (·.value)).getD "0.0") = h.side name := by
    intro name
    unfold Head.side
    rw [Head.attribute?]
    cases h.attributes.find? (·.name == name) with
    | none => rfl
    | some a => rfl
  simp only [Emit.insetsArgs, List.map_cons, List.map_nil, hside]

theorem Emit.constructorArgs_eq (env : Env) (h : Head) (var : String) :
    Emit.constructorArgs env h var = h.objectArgs env := by
  unfold Emit.constructorArgs Emit.attributeCodes Head.objectArgs
  by_cases hinsets : h.name = "Insets"
  · simp only [hinsets, beq_self_eq_true, if_true, Emit.insetsArgs_eq]
  · have hinsets' : (h.name == "Insets") = false := beq_false_of_ne hinsets
    rw [if_neg hinsets, hinsets', if_neg Bool.false_ne_true, if_neg Bool.false_ne_true]
    by_cases himage : h.name = "Image"
    · rw [if_pos himage, himage, filterMap_value?_emit]
      rfl
    · rw [if_neg himage, beq_false_of_ne himage]
      rfl

theorem run_attributeStmts (env : Env) (h : Head) {m : Machine} (hready : m.Ready owner k vars) :
    Machine.run (Line.plain (Emit.attributeStmts env h owner)) m
      = .ok (m.grow k (h.objectEffects env) [] [] (h.looseStreams env)) := by
  unfold Emit.attributeStmts Emit.attributeCodes Head.objectEffects Head.looseStreams
  by_cases hinsets : h.name = "Insets"
  · rw [if_pos hinsets, if_pos (Or.inl hinsets), Machine.grow_nil, hinsets]
    rfl
  · have hinsets' : (h.name == "Insets") = false := beq_false_of_ne hinsets
    rw [if_neg hinsets]
    by_cases himage : h.name = "Image"
    · rw [if_pos (Or.inr himage), himage]
      exact run_attributes_image env h.attributes hready
    · have himage' : (h.name == "Image") = false := beq_false_of_ne himage
      rw [if_neg (not_or.mpr ⟨hinsets, himage⟩), hinsets', himage', if_neg Bool.false_ne_true,
        if_neg Bool.false_ne_true, List.map_map]
      exact run_attributes env h.attributes hready

end Attributes

/-! ## Elements -/

namespace Element

/-- The variables of the constructed elements in document order. -/
def vars (e : Element) : List String := e.constructed.map Head.identifierText

def varsAll (es : List Element) : List String := (constructedAll es).map Head.identifierText

theorem varsAll_cons (e : Element) (es : List Element) : varsAll (e :: es) = e.vars ++ varsAll es := by
  rw [varsAll, constructedAll, List.map_append]
  rfl

theorem length_vars (env : Env) (n : Nat) (e : Element) :
    e.vars.length = (e.objects env n).length := by
  rw [vars, List.length_map, length_objects]

/-- Only the place of a property is felt in its code. -/
theorem lines_inside_eq (env : Env) (owner owner' : String) :
    ∀ {e : Element}, e.head.isProperty = false →
      e.lines env (.inside owner) = e.lines env (.inside owner')
  | mk h cs, hprop => by
      cases hkind : h.kind with
      | property => simp [head, Head.isProperty, hkind] at hprop
      | declaration =>
          rw [lines, lines, hkind]
          rfl
      | _ => rw [lines, lines, hkind]

theorem links_eq_nil (n : Nat) :
    ∀ {e : Element}, e.head.isProperty = false → e.links n = []
  | mk h cs, hprop => by
      cases hkind : h.kind with
      | property => simp [head, Head.isProperty, hkind] at hprop
      | _ => rw [links, hkind]

/-- The first variable of an object is its own. -/
theorem vars_of_isObject :
    ∀ {e : Element}, e.head.isObject = true → ∃ rest, e.vars = e.head.identifierText :: rest
  | mk h cs, hobj => by
      cases hkind : h.kind with
      | declaration => exact ⟨varsAll cs, by rw [vars, constructed, hkind]; rfl⟩
      | «include» => exact ⟨[], by rw [vars, constructed, hkind]; rfl⟩
      | _ => simp [head, Head.isObject, hkind] at hobj

end Element

open Element

/-- The construction of a declaration, its attributes and its children,
given what the children do. -/
theorem run_declaration (env : Env) (h : Head) (cs : List Element) {m : Machine} (k : Nat)
    (hrun : m.returned = none) (hnodup : (h.identifierText :: varsAll cs).Nodup)
    (hunbound : ∀ x ∈ varsAll cs, m.store.lookup x = none)
    (hchildren : ∀ m' : Machine, m'.Ready h.identifierText m.heap.length (varsAll cs) →
      Machine.run (linesAll env h.identifierText cs) m'
        = .ok (m'.grow m.heap.length (linksAll m'.heap.length cs) (varsAll cs)
          (objectsAll env m'.heap.length cs) (streamsAll env cs))) :
    Machine.run (Line.plain (Emit.construction env h h.identifierText
        :: Emit.attributeStmts env h h.identifierText) ++ linesAll env h.identifierText cs) m
      = .ok (m.grow k [] (h.identifierText :: varsAll cs)
        (h.declared env (linksAll (m.heap.length + 1) cs) :: objectsAll env (m.heap.length + 1) cs)
        (h.looseStreams env ++ streamsAll env cs)) := by
  have hact := Emit.action_construction env h h.identifierText
  rw [Emit.constructorArgs_eq] at hact
  have hready := Machine.ready_bind hrun hnodup hunbound h.name (.new h.name (h.objectArgs env))
  have hattributes : Machine.run (Line.plain (Emit.construction env h h.identifierText
      :: Emit.attributeStmts env h h.identifierText)) m
        = .ok ((m.bind h.identifierText h.name (.new h.name (h.objectArgs env))).grow m.heap.length
          (h.objectEffects env) [] [] (h.looseStreams env)) := by
    rw [Line.plain, List.map_cons, Machine.run_cons (Machine.step_bind hrun hact)]
    exact run_attributeStmts env h hready
  have hlength : (m.bind h.identifierText h.name (.new h.name (h.objectArgs env))).heap.length
      = m.heap.length + 1 := by
    rw [Machine.bind, List.length_append, List.length_singleton]
  rw [Machine.run_append hattributes, hchildren _ (hready.grow_nil _ _),
    Machine.grow_grow hready.inHeap rfl, Machine.length_grow_heap, List.length_nil, Nat.add_zero,
    hlength, Machine.bind_grow]
  rfl

/-- The call of an include's factory method and its attributes. -/
theorem run_include (env : Env) (h : Head) (source : String) {m : Machine} (k : Nat)
    (hrun : m.returned = none) :
    Machine.run (Line.plain (Emit.includeCode env h h.identifierText
        ((env.scope.controllers.get? source).getD "") ((env.scope.factories.get? source).getD ""))) m
      = .ok (m.grow k [] [h.identifierText] [h.included env source] (h.urlStreams env)) := by
  have hnodup : [h.identifierText].Nodup := by simp
  have hready := Machine.ready_bind hrun hnodup (fun x hx => (List.not_mem_nil hx).elim)
    (h.included env source).type (h.included env source).init
  rw [Emit.includeCode, Line.plain, List.map_cons, Machine.run_cons (Machine.step_bind hrun rfl)]
  have hattributes := run_attributes env h.attributes hready
  rw [Machine.bind_grow _ k] at hattributes
  exact hattributes

mutual

/-- Running the code of an element inside the object `k` adds what the
graph of the element says. -/
theorem run_lines (env : Env) :
    ∀ (e : Element) {m : Machine} {owner : String} {k : Nat}, e.flatProperties = true →
      m.Ready owner k e.vars →
      Machine.run (e.lines env (.inside owner)) m
        = .ok (m.grow k (e.links m.heap.length) e.vars (e.objects env m.heap.length)
          (e.streams env))
  | .mk h cs, m, owner, k, hflat, hready => by
      rw [flatProperties, Bool.and_eq_true] at hflat
      obtain ⟨hinner, hall⟩ := hflat
      unfold vars at hready ⊢
      rw [constructed] at hready ⊢
      rw [lines, links, objects, streams]
      cases hkind : h.kind with
      | declaration controller =>
          simp only [hkind] at hready ⊢
          have hunbound : ∀ x ∈ varsAll cs, m.store.lookup x = none :=
            fun x hx => hready.unbound x (List.mem_cons_of_mem _ hx)
          rw [Emit.trailer, Line.plain, Line.plain, List.map_nil, List.append_nil]
          exact run_declaration env h cs k hready.running hready.nodup hunbound
            (fun m' hready' => run_linesAll env cs hall hready')
      | «include» source =>
          simp only [hkind] at hready ⊢
          exact run_include env h source k hready.running
      | property kind =>
          simp only [hkind] at hready ⊢
          have hnone : cs.all (!·.head.isProperty) = true := by
            simpa [Head.isProperty, hkind] using hinner
          exact run_linesWired env owner _ h.name kind cs hall hnone hready
      | _ =>
          simp only [List.map_nil, Machine.grow_nil]
          rfl

theorem run_linesAll (env : Env) :
    ∀ (es : List Element) {m : Machine} {owner : String} {k : Nat}, flatPropertiesAll es = true →
      m.Ready owner k (varsAll es) →
      Machine.run (linesAll env owner es) m
        = .ok (m.grow k (linksAll m.heap.length es) (varsAll es) (objectsAll env m.heap.length es)
          (streamsAll env es))
  | [], m, owner, k, _, _ => by
      rw [linksAll, objectsAll, streamsAll]
      exact congrArg Except.ok (Machine.grow_nil m k).symm
  | e :: es, m, owner, k, hflat, hready => by
      rw [flatPropertiesAll, Bool.and_eq_true] at hflat
      rw [varsAll_cons] at hready ⊢
      have hfirst := run_lines env e hflat.1 hready.left
      have hrest := run_linesAll env es hflat.2
        (hready.grow (e.links m.heap.length) (e.objects env m.heap.length) (e.streams env))
      rw [Machine.grow_grow hready.inHeap (e.length_vars env _), Machine.length_grow_heap,
        length_objects] at hrest
      rw [linesAll, Machine.run_append hfirst, hrest, linksAll, objectsAll, streamsAll]

theorem run_linesWired (env : Env) (owner self property : String) (kind : PropertyKind) :
    ∀ (es : List Element) {m : Machine} {k : Nat}, flatPropertiesAll es = true →
      es.all (!·.head.isProperty) = true → m.Ready owner k (varsAll es) →
      Machine.run (linesWired env self (Emit.wiring owner kind property) es) m
        = .ok (m.grow k (linksTo (kind.call property) m.heap.length es) (varsAll es)
          (objectsAll env m.heap.length es) (streamsAll env es))
  | [], m, k, _, _, _ => by
      rw [linksTo, objectsAll, streamsAll]
      exact congrArg Except.ok (Machine.grow_nil m k).symm
  | e :: es, m, k, hflat, hnone, hready => by
      rw [flatPropertiesAll, Bool.and_eq_true] at hflat
      rw [List.all_cons, Bool.and_eq_true, Bool.not_eq_true'] at hnone
      rw [varsAll_cons] at hready ⊢
      have hfirst := run_lines env e hflat.1 hready.left
      rw [links_eq_nil _ hnone.1, lines_inside_eq env owner self hnone.1] at hfirst
      have hready₁ := hready.grow [] (e.objects env m.heap.length) (e.streams env)
      rw [linesWired, Machine.run_append hfirst, linksTo, objectsAll, streamsAll]
      cases hobj : e.head.isObject with
      | false =>
          have hneeds : e.head.needsName = false := by rw [Head.needsName, hobj, hnone.1]; rfl
          have hrest := run_linesWired env owner self property kind es hflat.2 hnone.2 hready₁
          rw [Machine.grow_grow hready.inHeap (e.length_vars env _), Machine.length_grow_heap,
            length_objects] at hrest
          rw [hneeds]
          exact hrest
      | true =>
          have hneeds : e.head.needsName = true := by rw [Head.needsName, hobj]; rfl
          obtain ⟨rest, hvars⟩ := vars_of_isObject hobj
          have hown : e.head.identifierText ∉ rest := by
            have hnodup := hready.left.nodup
            rw [hvars] at hnodup
            exact (List.nodup_cons.mp hnodup).1
          have hread := Machine.lookup_grow_head m k [] (e.objects env m.heap.length) (e.streams env) hown
          rw [← hvars] at hread
          have hstep := Machine.step_wire hready₁.running hready₁.bound
            (Emit.action_wiring owner kind property e.head.identifierText) hread
          rw [Machine.grow_grow hready.inHeap (e.length_vars env _)] at hstep
          simp only [List.nil_append, List.append_nil] at hstep
          have hrest := run_linesWired env owner self property kind es hflat.2 hnone.2
            (hready.grow [⟨kind.call property, .object m.heap.length⟩] (e.objects env m.heap.length)
              (e.streams env))
          rw [Machine.grow_grow hready.inHeap (e.length_vars env _), Machine.length_grow_heap,
            length_objects] at hrest
          rw [hneeds, if_pos rfl, if_pos rfl, List.singleton_append, Machine.run_cons hstep]
          exact hrest

end

/-! ## Documents -/

/-- The call that ends a method, before the root is returned. -/
def Options.hookCall (options : Options) : Expr :=
  .call none options.initializeHook [.null, .name options.bundle]

theorem run_trailer (env : Env) {m : Machine} {var : String} {n : Nat} (hrun : m.returned = none)
    (hvar : m.store.lookup var = some n) :
    Machine.run (Line.plain (Emit.trailer env var .root)) m = .ok
      { m with
        evaluated := m.evaluated ++ [env.options.hookCall]
        returned := some n } := by
  have hact : (Stmt.expr env.options.hookCall).action = .eval env.options.hookCall := rfl
  have hhook := Machine.step_eval 0 hrun hact
  have hret := Machine.step_ret (m := m.grow 0 [] [] [] [env.options.hookCall]) hrun hvar
  rw [Emit.trailer, Line.plain, List.map_cons, List.map_cons, List.map_nil, ← Options.hookCall,
    Machine.run_cons hhook, Machine.run_cons hret, Machine.run]
  simp [Machine.grow]

theorem run_root (env : Env) {controller : Option String} :
    ∀ {root : Element}, root.head.kind = .declaration controller → root.flatProperties = true →
      root.vars.Nodup →
      Machine.run (root.lines env .root) {} = .ok
        { store := root.vars.zipIdx.reverse
          heap := root.objects env 0
          evaluated := root.streams env ++ [env.options.hookCall]
          returned := some 0 }
  | .mk h cs, hkind, hflat, hnodup => by
      simp only [head] at hkind
      rw [flatProperties, Bool.and_eq_true] at hflat
      rw [vars, constructed, hkind] at hnodup ⊢
      simp only [List.map_cons] at hnodup ⊢
      have hbuild := run_declaration env h cs 0 (m := {}) rfl hnodup (fun _ _ => rfl)
        (fun m' hready' => run_linesAll env cs hflat.2 hready')
      have hread := Machine.lookup_grow_head {} 0 []
        (h.declared env (linksAll 1 cs) :: objectsAll env 1 cs)
        (h.looseStreams env ++ streamsAll env cs) (List.nodup_cons.mp hnodup).1
      rw [lines, hkind]
      simp only
      rw [← List.append_assoc, Machine.run_append hbuild, objects, streams, hkind]
      refine (run_trailer env rfl hread).trans ?_
      simp only [Machine.grow, List.append_nil, List.nil_append, List.modify_nil]
      rfl

/-- Constructed elements are named, so their variables differ where all
identifiers of the tree do. -/
theorem Element.vars_nodup {e : Element}
    (hnamed : ∀ h ∈ e.constructed, h.identifier = some h.identifierText)
    (hids : (e.preorder.filterMap (·.identifier)).Nodup) : e.vars.Nodup := by
  have hvars : e.constructed.filterMap (·.identifier) = e.vars := by
    rw [vars, List.filterMap_eq_map_iff_forall_eq_some]
    exact hnamed
  rw [← hvars]
  exact hids.sublist (e.constructed_sublist.filterMap _)

/-- The method body `body` builds the graph of the tree `root`, which is
`named` once its elements have names. -/
structure BuildsGraph (env : Env) (root named : Element) (body : List Stmt) : Prop where
  /-- The lines of the named tree are those of the body. -/
  code : (named.lines env .root).map Line.stmt = body
  /-- Every constructed element has a variable of its own. -/
  hasVar : ∀ h ∈ named.constructed, h.identifier = some h.identifierText
  vars_nodup : named.vars.Nodup
  /-- No variable is read before it is bound. Bound are the variables of
  the constructed elements, once each and in document order, to the
  objects of the tree in the same order. Besides, streams are opened and
  the hook is called; what is returned is the first object. -/
  run : Machine.run (named.lines env .root) {} = .ok
    { store := named.vars.zipIdx.reverse
      heap := root.objects env 0
      evaluated := root.streams env ++ [env.options.hookCall]
      returned := some 0 }

/-- The method compiled for a document builds its object graph. -/
theorem Document.compile_buildsGraph {options : Options} {handler : Handler} {d : Document}
    {s scope : Scope} {sources : Sources} {method : Method}
    (hnone : ∀ h ∈ d.heads, h.identifier = none)
    (hids : (d.heads.filterMap Head.ownFxId?).Nodup)
    (hflat : d.flatProperties = true)
    (hok : ((d.identify s).1.compile options handler scope sources).result = .ok method) :
    ∃ root named controller, d.root = some root ∧ (d.identify s).1.root = some named
      ∧ root.head.kind = .declaration (some controller)
      ∧ BuildsGraph (.compiling options handler scope controller) root named method.body := by
  obtain ⟨named, controller, stmts, file, hroot, hbody, -, rfl, -, -⟩ := compile_ok hok
  obtain ⟨hnamed, hkind⟩ := rootObject?_eq_some hroot
  obtain ⟨taken, pass⟩ := d.identify_pass s
  have hheads : (d.identify s).1.heads = named.preorder := by rw [heads, hnamed]
  have hnodup := pass.identifiers_nodup hnone fxId_mem_fxIds hids
  have hhas := pass.exists_identifier
  rw [hheads] at hnodup hhas
  obtain ⟨root, hd, rfl⟩ := exists_root_of_identify hnamed
  have hvar : ∀ h ∈ (root.identify "" root.fxIds).1.constructed,
      h.identifier = some h.identifierText := by
    intro h hmem
    have hneeds : h.needsName = true := by
      rw [Head.needsName, isObject_of_mem_constructed _ h hmem, Bool.true_or]
    obtain ⟨x, hx⟩ := hhas h ((constructed_sublist _).subset hmem) hneeds
    rw [Head.identifierText, hx, Option.getD_some]
  have hvars := Element.vars_nodup hvar hnodup
  have hflat' : (root.identify "" root.fxIds).1.flatProperties = true := by
    rw [flatProperties_identify]
    rw [Document.flatProperties, hd] at hflat
    exact hflat
  have hobj : (root.identify "" root.fxIds).1.head.isObject = true := by
    rw [Head.isObject, hkind]
  have hrun := run_root (.compiling options handler scope controller) hkind hflat' hvars
  rw [objects_identify, streams_identify] at hrun
  refine ⟨root, _, controller, hd, hnamed, ?_, ?_, hvar, hvars, hrun⟩
  · rw [← root.head_kind_identify "" root.fxIds]
    exact hkind
  · exact (body_eq_lines hobj hbody).symm

/-- A document with attributes of every kind, an `fx:id`, an include and
nested properties of nested objects. -/
def sampleView : Document where
  name := "Main"
  root := some <| .mk
    { kind := .declaration (some "com.example.Main"), name := "VBox"
      attributes := [⟨"styleClass", "box", .instanceProperty⟩, ⟨"spacing", "4", .instanceProperty⟩] } [
    .mk { kind := .property .instanceProperty, name := "children" } [
      .mk { kind := .declaration none, name := "Button", fxId := some "save"
            attributes := [⟨"onAction", "#save", .eventHandler⟩,
              ⟨"HBox.hgrow", "ALWAYS", .staticProperty⟩] } [
        .mk { kind := .property .instanceProperty, name := "graphic" } [
          .leaf { kind := .declaration none, name := "Image"
                  attributes := [⟨"url", "@save.png", .instanceProperty⟩] }]],
      .leaf { kind := .include "Child.fxml", name := "include" },
      .leaf { kind := .reference, name := "fx:reference", fxId := some "vBox" }],
    .mk { kind := .property .staticProperty, name := "GridPane.margin" } [
      .leaf { kind := .declaration none, name := "Insets"
              attributes := [⟨"top", "1.0", .instanceProperty⟩] }]]

/-- The scope of a batch with a document `Child`. -/
def sampleScope : Scope :=
  (Scope.addController {} "Child.fxml" "com.example.Child").addFactory "Child.fxml" "HBox"

def sampleSources : Sources := Sources.declare {} "com.example.Main"

theorem compile_buildsGraph_sampleView :
    (∀ h ∈ sampleView.heads, h.identifier = none)
      ∧ (sampleView.heads.filterMap Head.ownFxId?).Nodup
      ∧ sampleView.flatProperties = true
      ∧ ∃ method, ((sampleView.identify {}).1.compile {} Handler.methodRef sampleScope
          sampleSources).result = .ok method
        ∧ ∃ root named controller, sampleView.root = some root
          ∧ (sampleView.identify {}).1.root = some named
          ∧ root.head.kind = .declaration (some controller)
          ∧ BuildsGraph (.compiling {} Handler.methodRef sampleScope controller) root named
            method.body := by
  have hnone : ∀ h ∈ sampleView.heads, h.identifier = none := by decide
  have hids : (sampleView.heads.filterMap Head.ownFxId?).Nodup := by decide
  have hflat : sampleView.flatProperties = true := by decide
  have hisOk : ((sampleView.identify {}).1.compile {} Handler.methodRef sampleScope
      sampleSources).result.isOk = true := by decide +kernel
  obtain ⟨method, hok⟩ := exists_ok_of_isOk hisOk
  exact ⟨hnone, hids, hflat, method, hok, Document.compile_buildsGraph hnone hids hflat hok⟩

end FxmlCodegen
