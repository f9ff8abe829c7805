/-!
# Elements

The tree of a view document: a rose tree whose nodes are what a tag says
(`Head`) and whose edges are nesting. Passes over the tree change heads
and keep its shape.
-/

namespace FxmlCodegen

/-! ## Attributes -/

inductive AttributeKind where
  | eventHandler
  | instanceProperty
  | staticProperty
  deriving DecidableEq, Inhabited

structure Attribute where
  name : String
  value : String
  kind : AttributeKind
  deriving DecidableEq, Inhabited

/-! ## Heads -/

inductive PropertyKind where
  | instanceProperty
  | staticProperty
  deriving DecidableEq, Inhabited

/-- What an element stands for. -/
inductive Kind where
  /-- An object to construct. The controller matters on a document root
  only. -/
  | declaration (controller : Option String)
  /-- A property of the enclosing object, set to the elements inside. -/
  | property (kind : PropertyKind)
  /-- The root object of another document. -/
  | «include» (source : String)
  | reference
  | copy
  | define
  | root
  | script
  | unknownType
  | unknownStaticProperty
  deriving DecidableEq, Inhabited

/-- An element without its children. -/
structure Head where
  kind : Kind
  name : String
  fxId : Option String := none
  id : Option String := none
  /-- The Java variable, once assigned. -/
  identifier : Option String := none
  attributes : List Attribute := []
  deriving DecidableEq, Inhabited

namespace Head

/-- The first attribute of this name. -/
def attribute? (h : Head) (name : String) : Option Attribute :=
  h.attributes.find? (·.name == name)

/-- The identifier, empty if there is none. -/
def identifierText (h : Head) : String := h.identifier.getD ""

end Head

/-! ## Trees -/

inductive Element where
  | mk (head : Head) (children : List Element)
  deriving Inhabited

namespace Element

def head : Element → Head
  | mk h _ => h

def children : Element → List Element
  | mk _ cs => cs

/-- An element without children. -/
def leaf (h : Head) : Element := mk h []

/-- Adds a child after the others. -/
def addChild : Element → Element → Element
  | mk h cs, c => mk h (cs ++ [c])

mutual

/-- The heads of the tree, each before those of its children, without
those below a head at which `descend` is false. -/
def preorderWhere (descend : Head → Bool) : Element → List Head
  | mk h cs => h :: (if descend h then preorderAllWhere descend cs else [])

def preorderAllWhere (descend : Head → Bool) : List Element → List Head
  | [] => []
  | e :: es => e.preorderWhere descend ++ preorderAllWhere descend es

end

/-- The heads of the whole tree, each before those of its children. -/
def preorder (e : Element) : List Head := e.preorderWhere fun _ => true

mutual

/-- Changes the head at a path of child positions; a path that leaves
the tree changes nothing. -/
def modifyAt (f : Head → Head) : List Nat → Element → Element
  | [], mk h cs => mk (f h) cs
  | i :: path, mk h cs => mk h (modifyChildAt f path i cs)

def modifyChildAt (f : Head → Head) (path : List Nat) : Nat → List Element → List Element
  | _, [] => []
  | 0, e :: es => modifyAt f path e :: es
  | i + 1, e :: es => e :: modifyChildAt f path i es

end

end Element

end FxmlCodegen
