import FxmlCodegen.Emit.Attribute
import FxmlCodegen.Failure

/-!
# Code for elements

The statements that build an element: an object is constructed, then its
attributes are applied, then its children built; an include is fetched
from the factory method of the document it names; a property builds its
elements and sets each on the object around it. Other kinds contribute
no code, but what is inside them must be fit for code all the same.

Identifiers must have been assigned before.
-/

namespace FxmlCodegen

open Java (Expr Stmt)

/-- Where an element stands. -/
inductive Place where
  /-- At the root of a document. -/
  | root
  /-- Inside the element in this variable. -/
  | inside (owner : String)
  deriving DecidableEq, Inhabited

def Place.owner : Place → String
  | .root => ""
  | .inside owner => owner

/-- The code of an element and the variable it leaves the element in. -/
structure Fragment where
  var : String
  code : List Stmt

/-- The identifier, which must be there and not empty. -/
def Head.requireIdentifier (h : Head) : Except Failure String :=
  match h.identifier with
  | some identifier =>
    if identifier = "" then .error (.missingIdentifier h.name) else .ok identifier
  | none => .error (.missingIdentifier h.name)

namespace Emit

/-! ## Objects -/

/-- The sides of `Insets` in the order its constructor takes them; one
that is not given is zero. -/
def insetsArgs (h : Head) : List Expr :=
  ["top", "right", "bottom", "left"].map fun side =>
    .double (((h.attribute? side).map (·.value)).getD "0.0")

/-- The code of the attributes in order. `Insets` has none: its
attributes are arguments of the constructor as they stand. -/
def attributeCodes (env : Env) (h : Head) (var : String) : List AttributeCode :=
  if h.name == "Insets" then [] else h.attributes.map (·.emit env var)

/-- What the constructor is given: the sides for `Insets`, the stream for
an `Image`. -/
def constructorArgs (env : Env) (h : Head) (var : String) : List Expr :=
  if h.name == "Insets" then insetsArgs h
  else if h.name == "Image" then (attributeCodes env h var).filterMap AttributeCode.value?
  else []

/-- The attribute code that the constructor does not take. -/
def attributeStmts (env : Env) (h : Head) (var : String) : List Stmt :=
  if h.name == "Image" then (attributeCodes env h var).filterMap AttributeCode.statement?
  else (attributeCodes env h var).map AttributeCode.toStmt

/-- The construction of an object: an assignment to the controller's
field if the variable is its `fx:id`, else a declaration. -/
def construction (env : Env) (h : Head) (var : String) : Stmt :=
  let init := Expr.new h.name (constructorArgs env h var)
  if h.fxId = some var then .expr (.assign (.name var) init)
  else .declare h.name var init

/-- What ends the code of a document root. -/
def trailer (env : Env) (var : String) : Place → List Stmt
  | .root =>
    [.expr (.call none env.options.initializeHook [.null, .name env.options.bundle]),
      .ret (.name var)]
  | .inside _ => []

def objectCode (env : Env) (place : Place) (h : Head) (var : String)
    (children : List Fragment) : List Stmt :=
  construction env h var :: (attributeStmts env h var
    ++ children.flatMap Fragment.code ++ trailer env var place)

/-! ## Includes -/

/-- The call of the factory method on a new controller of the included
document. -/
def includeCall (options : Options) (controller : Java.TypeName) : Expr :=
  let factory := (Expr.name options.modelFacade).callOn options.factoryMethod []
  let maker := factory.callOn options.factoryCall [.classOf controller]
  (Expr.paren (.cast controller maker)).callOn options.methodName []

def includeCode (env : Env) (h : Head) (var : String) (controller factory : Java.TypeName) :
    List Stmt :=
  .declare factory var (includeCall env.options controller)
    :: h.attributes.map fun a => (a.emit env var).toStmt

/-- The controller and root type of the document a source names. -/
def includeTarget (env : Env) (source : String) : Except Failure (String × Java.TypeName) :=
  match env.scope.controllers.get? source, env.scope.factories.get? source with
  | some controller, some factory => .ok (controller, factory)
  | _, _ => .error (.unresolvedInclude source)

/-! ## Properties -/

/-- Properties that hold a list, to which elements are added. -/
def listProperties : List String :=
  ["children", "columnConstraints", "rowConstraints", "tabs", "items", "columns"]

/-- The call that sets a property of `owner` to the element in a
variable. -/
def wiring (owner : String) (kind : PropertyKind) (property var : String) : Stmt :=
  let target := Expr.name owner
  let value := Expr.name var
  .expr <|
    if listProperties.contains property then (target.getter property).callOn "add" [value]
    else
      match kind with
      | .staticProperty => .staticSetter property target value
      | .instanceProperty => target.setter property value

def propertyCode (owner : String) (kind : PropertyKind) (property : String)
    (children : List Fragment) : List Stmt :=
  children.flatMap fun c => c.code ++ [wiring owner kind property c.var]

end Emit

/-! ## Trees -/

namespace Element

mutual

/-- The code of an element, or none if its kind has no code. -/
def emit (env : Env) (place : Place) : Element → Except Failure (Option Fragment)
  | mk h cs =>
    match h.kind with
    | .declaration _ => do
      let var ← h.requireIdentifier
      let children ← emitAll env var cs
      return some ⟨var, Emit.objectCode env place h var children⟩
    | .include source => do
      let (controller, factory) ← Emit.includeTarget env source
      let var ← h.requireIdentifier
      return some ⟨var, Emit.includeCode env h var controller factory⟩
    | .property kind => do
      let var ← h.requireIdentifier
      let children ← emitAll env var cs
      return some ⟨var, Emit.propertyCode place.owner kind h.name children⟩
    | _ => do
      let _ ← emitAll env h.identifierText cs
      return none

/-- The code of the children of the element in the variable `owner`. -/
def emitAll (env : Env) (owner : String) : List Element → Except Failure (List Fragment)
  | [] => return []
  | e :: es => do
    let fragment ← e.emit env (.inside owner)
    let fragments ← emitAll env owner es
    return fragment.toList ++ fragments

end

end Element

end FxmlCodegen
