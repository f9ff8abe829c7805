import FxmlCodegen.Emit.Element
import FxmlCodegen.Proofs.Machine
import FxmlCodegen.Proofs.NamingPass

/-!
# The object graph of a document

What a view document describes, said of the tree alone: no statements, no
variables, and every call written out rather than taken from the code that
emits it. Every constructed element, in document order, is one object
(`Element.objects`), numbered from zero at the root. An object has the
type and constructor arguments its tag asks for, then one effect for each
attribute in the order of the author, then one link for each element
inside each of its properties.

Constructed are declarations and includes that are reached through
declarations and properties alone (`Element.constructed`): what is inside
an include belongs to no one, and elements of the other kinds have no code
inside them either.

Two attributes do not change the object. `Insets` takes its sides as
constructor arguments and ignores the rest; the `url` of an `Image` is a
constructor argument, and on any other element it opens a stream for
nothing (`Element.streams`).

Names play no part in any of this, so a named document has the same graph
(`objects_identify`).
-/

namespace FxmlCodegen

open Java (Call Effect Expr Object)

/-! ## Attributes -/

/-- The setter of a property. -/
def Java.Call.ofInstance (property : String) : Call := .setter ("set" ++ Text.upperFirst property)

/-- The static setter of a dotted property. -/
def Java.Call.ofStatic (dotted : String) : Call :=
  match Text.cutLast '.' dotted with
  | some ("", property) => .static none ("set" ++ Text.upperFirst property)
  | some (type, property) => .static (some (Expr.ofDotted type)) ("set" ++ Text.upperFirst property)
  | none => .static none ("set" ++ Text.upperFirst dotted)

namespace Attribute

/-- The change an attribute makes to its object. The handler method of an
event is named behind the first character of the value. -/
def effect? (env : Env) (a : Attribute) : Option Effect :=
  if a.name = "styleClass" then some ⟨.add "getStyleClass", .expr (.string a.value)⟩
  else if a.name = "url" then none
  else
    match a.kind with
    | .eventHandler =>
      some ⟨.ofInstance a.name, .expr (env.handler (String.ofList a.value.toList.tail))⟩
    | .instanceProperty => some ⟨.ofInstance a.name, .expr (a.resolve env)⟩
    | .staticProperty => some ⟨.ofStatic a.name, .expr (a.resolve env)⟩

/-- `getClass().getResource(value).openStream()`. -/
def resourceStream (env : Env) (a : Attribute) : Expr :=
  .call (some (.call (some (.call none "getClass" [])) "getResource" [a.resolve env]))
    "openStream" []

end Attribute

/-! ## Single objects -/

/-- `((C) facade.factory().call(C.class)).create()`, with the names of the
options: the view of the controller `C`. -/
def Options.viewOf (options : Options) (controller : Java.TypeName) : Expr :=
  .call (some (.paren (.cast controller (.call
      (some (.call (some (.name options.modelFacade)) options.factoryMethod []))
      options.factoryCall [.classOf controller]))))
    options.methodName []

namespace Head

def effects (env : Env) (h : Head) : List Effect := h.attributes.filterMap (·.effect? env)

def urlStreams (env : Env) (h : Head) : List Expr :=
  (h.attributes.filter (·.name = "url")).map (·.resourceStream env)

/-- A side of `Insets`: the first attribute of that name as it stands, or
zero. -/
def side (h : Head) (name : String) : Expr :=
  match h.attributes.find? (·.name = name) with
  | some a => .double a.value
  | none => .double "0.0"

/-- What the constructor of a declaration is given. -/
def objectArgs (env : Env) (h : Head) : List Expr :=
  if h.name = "Insets" then [h.side "top", h.side "right", h.side "bottom", h.side "left"]
  else if h.name = "Image" then h.urlStreams env
  else []

/-- What the attributes of a declaration do to its object. -/
def objectEffects (env : Env) (h : Head) : List Effect :=
  if h.name = "Insets" then [] else h.effects env

/-- The streams a declaration opens for nothing. -/
def looseStreams (env : Env) (h : Head) : List Expr :=
  if h.name = "Insets" ∨ h.name = "Image" then [] else h.urlStreams env

/-- The object of a declaration, with links to the elements inside. -/
def declared (env : Env) (h : Head) (links : List Effect) : Object where
  type := h.name
  init := .new h.name (h.objectArgs env)
  effects := h.objectEffects env ++ links

/-- The object of an include, made by the factory method of the document
the source names. That the source names one is up to `Emit.includeTarget`,
which fails otherwise. -/
def included (env : Env) (h : Head) (source : String) : Object where
  type := (env.scope.factories.get? source).getD ""
  init := env.options.viewOf ((env.scope.controllers.get? source).getD "")
  effects := h.effects env

end Head

/-- How a property is set: elements are added to one that holds a list. -/
def PropertyKind.call (kind : PropertyKind) (property : String) : Call :=
  if property ∈ ["children", "columnConstraints", "rowConstraints", "tabs", "items", "columns"] then
    .add ("get" ++ Text.upperFirst property)
  else
    match kind with
    | .staticProperty => .ofStatic property
    | .instanceProperty => .ofInstance property

/-! ## The tree -/

namespace Element

mutual

/-- The heads of the constructed elements in document order. -/
def constructed : Element → List Head
  | mk h cs =>
    match h.kind with
    | .declaration _ => h :: constructedAll cs
    | .include _ => [h]
    | .property _ => constructedAll cs
    | _ => []

def constructedAll : List Element → List Head
  | [] => []
  | e :: es => e.constructed ++ constructedAll es

end

/-- Links to the objects among elements numbered from `n` on. -/
def linksTo (call : Call) (n : Nat) : List Element → List Effect
  | [] => []
  | e :: es =>
    (if e.head.isObject then [⟨call, .object n⟩] else [])
      ++ linksTo call (n + e.constructed.length) es

/-- The links an element adds to the object around it, numbered from `n`
on: a property links what is inside. -/
def links (n : Nat) : Element → List Effect
  | mk h cs =>
    match h.kind with
    | .property kind => linksTo (kind.call h.name) n cs
    | _ => []

def linksAll (n : Nat) : List Element → List Effect
  | [] => []
  | e :: es => e.links n ++ linksAll (n + e.constructed.length) es

mutual

/-- The objects of an element, numbered from `n` on. -/
def objects (env : Env) (n : Nat) : Element → List Object
  | mk h cs =>
    match h.kind with
    | .declaration _ => h.declared env (linksAll (n + 1) cs) :: objectsAll env (n + 1) cs
    | .include source => [h.included env source]
    | .property _ => objectsAll env n cs
    | _ => []

def objectsAll (env : Env) (n : Nat) : List Element → List Object
  | [] => []
  | e :: es => e.objects env n ++ objectsAll env (n + e.constructed.length) es

end

mutual

/-- The streams opened for nothing, in document order. -/
def streams (env : Env) : Element → List Expr
  | mk h cs =>
    match h.kind with
    | .declaration _ => h.looseStreams env ++ streamsAll env cs
    | .include _ => h.urlStreams env
    | .property _ => streamsAll env cs
    | _ => []

def streamsAll (env : Env) : List Element → List Expr
  | [] => []
  | e :: es => e.streams env ++ streamsAll env es

end

mutual

/-- No property is a direct child of a property. -/
def flatProperties : Element → Bool
  | mk h cs => (!h.isProperty || cs.all (!·.head.isProperty)) && flatPropertiesAll cs

def flatPropertiesAll : List Element → Bool
  | [] => true
  | e :: es => e.flatProperties && flatPropertiesAll es

end

end Element

def Document.flatProperties (d : Document) : Bool := d.root.all Element.flatProperties

/-! ## Counting -/

namespace Element

mutual

theorem length_objects (env : Env) :
    ∀ (n : Nat) (e : Element), (e.objects env n).length = e.constructed.length
  | n, mk h cs => by
      rw [objects, constructed]
      split
      · rw [List.length_cons, List.length_cons, length_objectsAll env (n + 1) cs]
      · rfl
      · exact length_objectsAll env n cs
      · rfl

theorem length_objectsAll (env : Env) :
    ∀ (n : Nat) (es : List Element), (objectsAll env n es).length = (constructedAll es).length
  | _, [] => rfl
  | n, e :: es => by
      rw [objectsAll, constructedAll, List.length_append, List.length_append,
        length_objects env n e, length_objectsAll env _ es]

end

mutual

theorem constructed_sublist : ∀ e : Element, e.constructed.Sublist e.preorder
  | mk h cs => by
      have hall := constructedAll_sublist cs
      rw [constructed, preorder, preorderWhere, if_pos rfl]
      split
      · exact hall.cons_cons h
      · exact (List.nil_sublist _).cons_cons h
      · exact hall.cons h
      · exact List.nil_sublist _

theorem constructedAll_sublist :
    ∀ es : List Element, (constructedAll es).Sublist (preorderAllWhere (fun _ => true) es)
  | [] => List.nil_sublist _
  | e :: es => by
      rw [constructedAll, preorderAllWhere]
      exact (constructed_sublist e).append (constructedAll_sublist es)

end

mutual

theorem isObject_of_mem_constructed : ∀ e : Element, ∀ h ∈ e.constructed, h.isObject = true
  | mk h cs => by
      intro g hg
      rw [constructed] at hg
      split at hg
      · rename_i hkind
        rcases List.mem_cons.mp hg with rfl | hg
        · rw [Head.isObject, hkind]
        · exact isObject_of_mem_constructedAll cs g hg
      · rename_i hkind
        rw [List.mem_singleton.mp hg, Head.isObject, hkind]
      · exact isObject_of_mem_constructedAll cs g hg
      · exact (List.not_mem_nil hg).elim

theorem isObject_of_mem_constructedAll :
    ∀ es : List Element, ∀ h ∈ constructedAll es, h.isObject = true
  | [] => fun _ hg => (List.not_mem_nil hg).elim
  | e :: es => by
      intro g hg
      rw [constructedAll] at hg
      rcases List.mem_append.mp hg with hg | hg
      · exact isObject_of_mem_constructed e g hg
      · exact isObject_of_mem_constructedAll es g hg

end

/-! ## Names play no part -/

mutual

theorem constructed_unnamed :
    ∀ e : Element, e.unnamed.constructed = e.constructed.map Head.unnamed
  | mk h cs => by
      have hall := constructedAll_unnamed cs
      have hkind : h.unnamed.kind = h.kind := rfl
      rw [unnamed, constructed, constructed, hkind]
      split
      · rw [hall, List.map_cons]
      · rfl
      · exact hall
      · rfl

theorem constructedAll_unnamed :
    ∀ es : List Element, constructedAll (unnamedAll es) = (constructedAll es).map Head.unnamed
  | [] => rfl
  | e :: es => by
      rw [unnamedAll, constructedAll, constructedAll, List.map_append, constructed_unnamed e,
        constructedAll_unnamed es]

end

theorem length_constructed_unnamed (e : Element) :
    e.unnamed.constructed.length = e.constructed.length := by
  rw [constructed_unnamed, List.length_map]

theorem head_unnamed (e : Element) : e.unnamed.head = e.head.unnamed := by
  cases e
  rfl

theorem linksTo_unnamed (call : Call) :
    ∀ (n : Nat) (es : List Element), linksTo call n (unnamedAll es) = linksTo call n es
  | _, [] => rfl
  | n, e :: es => by
      rw [unnamedAll, linksTo, linksTo, length_constructed_unnamed, linksTo_unnamed call _ es,
        head_unnamed]
      rfl

theorem links_unnamed (n : Nat) : ∀ e : Element, e.unnamed.links n = e.links n
  | mk h cs => by
      have hkind : h.unnamed.kind = h.kind := rfl
      rw [unnamed, links, links, hkind]
      split
      · exact linksTo_unnamed _ n cs
      · rfl

theorem linksAll_unnamed :
    ∀ (n : Nat) (es : List Element), linksAll n (unnamedAll es) = linksAll n es
  | _, [] => rfl
  | n, e :: es => by
      rw [unnamedAll, linksAll, linksAll, links_unnamed, length_constructed_unnamed,
        linksAll_unnamed _ es]

mutual

theorem objects_unnamed (env : Env) :
    ∀ (n : Nat) (e : Element), e.unnamed.objects env n = e.objects env n
  | n, mk h cs => by
      have hkind : h.unnamed.kind = h.kind := rfl
      rw [unnamed, objects, objects, hkind]
      split
      · rw [linksAll_unnamed, objectsAll_unnamed env _ cs]
        rfl
      · rfl
      · exact objectsAll_unnamed env n cs
      · rfl

theorem objectsAll_unnamed (env : Env) :
    ∀ (n : Nat) (es : List Element), objectsAll env n (unnamedAll es) = objectsAll env n es
  | _, [] => rfl
  | n, e :: es => by
      rw [unnamedAll, objectsAll, objectsAll, objects_unnamed env n e, length_constructed_unnamed,
        objectsAll_unnamed env _ es]

end

mutual

theorem streams_unnamed (env : Env) : ∀ e : Element, e.unnamed.streams env = e.streams env
  | mk h cs => by
      have hkind : h.unnamed.kind = h.kind := rfl
      rw [unnamed, streams, streams, hkind]
      split
      · rw [streamsAll_unnamed env cs]
        rfl
      · rfl
      · exact streamsAll_unnamed env cs
      · rfl

theorem streamsAll_unnamed (env : Env) :
    ∀ es : List Element, streamsAll env (unnamedAll es) = streamsAll env es
  | [] => rfl
  | e :: es => by
      rw [unnamedAll, streamsAll, streamsAll, streams_unnamed env e, streamsAll_unnamed env es]

end

theorem all_isProperty_unnamed :
    ∀ es : List Element,
      (unnamedAll es).all (!·.head.isProperty) = es.all (!·.head.isProperty)
  | [] => rfl
  | e :: es => by
      rw [unnamedAll, List.all_cons, List.all_cons, all_isProperty_unnamed es, head_unnamed]
      rfl

mutual

theorem flatProperties_unnamed : ∀ e : Element, e.unnamed.flatProperties = e.flatProperties
  | mk h cs => by
      rw [unnamed, flatProperties, flatProperties, all_isProperty_unnamed,
        flatPropertiesAll_unnamed cs]
      rfl

theorem flatPropertiesAll_unnamed :
    ∀ es : List Element, flatPropertiesAll (unnamedAll es) = flatPropertiesAll es
  | [] => rfl
  | e :: es => by
      rw [unnamedAll, flatPropertiesAll, flatPropertiesAll, flatProperties_unnamed e,
        flatPropertiesAll_unnamed es]

end

variable (owner : String) (e : Element) (taken : List String)

theorem objects_identify (env : Env) (n : Nat) :
    (e.identify owner taken).1.objects env n = e.objects env n := by
  rw [← objects_unnamed, unnamed_identify, objects_unnamed]

theorem streams_identify (env : Env) :
    (e.identify owner taken).1.streams env = e.streams env := by
  rw [← streams_unnamed, unnamed_identify, streams_unnamed]

theorem flatProperties_identify :
    (e.identify owner taken).1.flatProperties = e.flatProperties := by
  rw [← flatProperties_unnamed, unnamed_identify, flatProperties_unnamed]

end Element

end FxmlCodegen
