import FxmlCodegen.Text.LetterCase
import FxmlCodegen.Text.Split

/-!
# Java expressions and statements

The part of Java a factory method is written in. Nodes are plain values;
`Java.Printer` gives their text and `Java.Codec` their JSON form.
-/

namespace FxmlCodegen.Java

/-- A class or interface by its simple or qualified name. -/
abbrev TypeName := String

inductive Expr where
  /-- A name, kept as written. -/
  | name (name : String)
  | qualified (qualifier : Expr) (name : String)
  | field (scope : Expr) (name : String)
  /-- A method call; without a scope it is a call on the object itself. -/
  | call (scope : Option Expr) (name : String) (args : List Expr)
  | methodRef (scope : Expr) (name : String)
  | string (value : String)
  /-- A floating-point literal, kept as written. -/
  | double (literal : String)
  | null
  | this
  | cast (type : TypeName) (value : Expr)
  | paren (inner : Expr)
  | new (type : TypeName) (args : List Expr)
  /-- The class object of a type. -/
  | classOf (type : TypeName)
  | assign (target value : Expr)
  deriving Inhabited

inductive Stmt where
  | expr (expr : Expr)
  | declare (type : TypeName) (name : String) (init : Expr)
  | ret (value : Expr)
  deriving Inhabited

/-! ## Accessor names -/

def getterName (property : String) : String := "get" ++ Text.upperFirst property

def setterName (property : String) : String := "set" ++ Text.upperFirst property

namespace Expr

/-- The qualified name a dotted text spells: `a.b.C` is `C` in `b` in
`a`. -/
def ofDotted (dotted : String) : Expr :=
  match Text.split '.' dotted with
  | [] => .name ""
  | first :: rest => rest.foldl .qualified (.name first)

/-- A call on a scope. -/
def callOn (scope : Expr) (name : String) (args : List Expr) : Expr := .call (some scope) name args

/-- `scope.getProperty()`. -/
def getter (scope : Expr) (property : String) : Expr := scope.callOn (getterName property) []

/-- `scope.setProperty(value)`. -/
def setter (scope : Expr) (property : String) (value : Expr) : Expr :=
  scope.callOn (setterName property) [value]

/-- `Type.setProperty(target, value)` for the dotted name
`Type.property`; a name without a type gives a call without a scope. -/
def staticSetter (dotted : String) (target value : Expr) : Expr :=
  match Text.cutLast '.' dotted with
  | some ("", property) => .call none (setterName property) [target, value]
  | some (type, property) => .call (some (ofDotted type)) (setterName property) [target, value]
  | none => .call none (setterName dotted) [target, value]

end Expr

end FxmlCodegen.Java
