import FxmlCodegen.Document.Basic
import FxmlCodegen.Naming.Scope

/-!
# Identifiers for a document

Gives a variable name to every object, include and property that has
none. An `fx:id` is used as it is; all of a document are reserved before
the first name is made, so a made name never meets one. Documents that
are named together also become include targets, so an include may point
at a document that comes later.
-/

namespace FxmlCodegen

/-! ## One head -/

namespace Head

/-- The seed for an object or include without `fx:id`. -/
def declarationSeed (h : Head) : String := h.id.getD h.name

/-- The seed for a property of the object named `owner`. -/
def propertySeed (owner : String) (h : Head) : String :=
  Text.lowerFirst owner ++ Text.upperFirst h.name

/-- A fresh name for the head, taken from now on. -/
def identifyFresh (h : Head) (seed : String) (taken : List String) : Head × List String :=
  let name := freshName taken seed
  ({ h with identifier := some name }, name :: taken)

/-- The head with an identifier, if its kind has one, and the names
taken after that. `owner` names the nearest object around it. -/
def identify (owner : String) (h : Head) (taken : List String) : Head × List String :=
  match h.identifier with
  | some _ => (h, taken)
  | none =>
    match h.kind with
    | .declaration _ | .include _ =>
      match h.fxId with
      | some fxId => ({ h with identifier := some fxId }, taken)
      | none => h.identifyFresh h.declarationSeed taken
    | .property _ => h.identifyFresh (h.propertySeed owner) taken
    | _ => (h, taken)

/-- The nearest object around the children of this head. -/
def ownerBelow (owner : String) (h : Head) : String :=
  match h.kind with
  | .declaration _ => h.identifierText
  | _ => owner

end Head

/-! ## The tree -/

namespace Element

mutual

def identify (owner : String) : Element → List String → Element × List String
  | mk h cs, taken =>
    let (h', taken) := h.identify owner taken
    let (cs', taken) := identifyAll (h'.ownerBelow owner) cs taken
    (mk h' cs', taken)

def identifyAll (owner : String) : List Element → List String → List Element × List String
  | [], taken => ([], taken)
  | e :: es, taken =>
    let (e', taken) := e.identify owner taken
    let (es', taken) := identifyAll owner es taken
    (e' :: es', taken)

end

/-- The `fx:id`s of all elements of the tree. -/
def fxIds (e : Element) : List String := e.preorder.filterMap (·.fxId)

end Element

/-! ## Documents -/

namespace Document

/-- Makes the document an include target if its root is an object. -/
def register (d : Document) (s : Scope) : Scope :=
  match d.root with
  | some (.mk h _) =>
    match h.kind with
    | .declaration (some controller) =>
      (s.addController d.includeKey controller).addFactory d.includeKey h.name
    | .declaration none => s.addFactory d.includeKey h.name
    | _ => s
  | none => s

/-- The document with identifiers, and the scope that knows its names
and can include it. -/
def identify (d : Document) (s : Scope) : Document × Scope :=
  let s := d.register s.clearNames
  match d.root with
  | none => (d, s)
  | some root =>
    let (root, taken) := root.identify "" root.fxIds
    ({ d with root := some root }, { s with taken })

def identifyAll : List Document → Scope → List Document × Scope
  | [], s => ([], s)
  | d :: ds, s =>
    let (d, s) := d.identify s
    let (ds, s) := identifyAll ds s
    (d :: ds, s)

end Document

end FxmlCodegen
