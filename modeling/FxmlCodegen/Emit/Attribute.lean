import FxmlCodegen.Document.Element
import FxmlCodegen.Emit.Value
import FxmlCodegen.Naming.Scope

/-!
# Code for attributes

Most attributes become a setter call on their element. `styleClass` adds
to a list, and `url` is an expression that its element uses as it likes.
-/

namespace FxmlCodegen

open Java (Expr Stmt)

/-- How an event handler is written, given its name. -/
abbrev Handler := String → Expr

/-- The handler as a method of the controller: `this::name`. -/
def Handler.methodRef : Handler := fun name => .methodRef .this name

/-- What code generation knows besides the tree. -/
structure Env where
  options : Options := {}
  handler : Handler := Handler.methodRef
  scope : Scope := {}

inductive AttributeCode where
  | statement (stmt : Stmt)
  | value (expr : Expr)

namespace AttributeCode

def statement? : AttributeCode → Option Stmt
  | .statement stmt => some stmt
  | .value _ => none

def value? : AttributeCode → Option Expr
  | .statement _ => none
  | .value expr => some expr

/-- The code as a statement, with a value evaluated for nothing. -/
def toStmt : AttributeCode → Stmt
  | .statement stmt => stmt
  | .value expr => .expr expr

end AttributeCode

namespace Attribute

def resolve (env : Env) (a : Attribute) : Expr :=
  resolveValue env.options env.scope.active a.name a.value

/-- The stream a `url` names. -/
def stream (env : Env) (a : Attribute) : Expr :=
  ((Expr.call none "getClass" []).callOn "getResource" [a.resolve env]).callOn "openStream" []

/-- The name of the handler method: the value without its `#`. -/
def handlerName (a : Attribute) : String := String.ofList (a.value.toList.drop 1)

/-- The code for an attribute of the element in the variable `owner`. -/
def emit (env : Env) (owner : String) (a : Attribute) : AttributeCode :=
  let target := Expr.name owner
  if a.name == "styleClass" then
    .statement (.expr ((target.callOn "getStyleClass" []).callOn "add" [.string a.value]))
  else if a.name == "url" then
    .value (a.stream env)
  else
    .statement <| .expr <|
      match a.kind with
      | .eventHandler => target.setter a.name (env.handler a.handlerName)
      | .instanceProperty => target.setter a.name (a.resolve env)
      | .staticProperty => .staticSetter a.name target (a.resolve env)

end Attribute

end FxmlCodegen
