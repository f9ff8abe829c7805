import FxmlCodegen.Java.Literal
import FxmlCodegen.Java.SourceFile

/-!
# Java text

The text of expressions, statements, methods and source files. An
expression is printed as it is built: parentheses appear only where the
tree has a `paren` node.
-/

namespace FxmlCodegen.Java

mutual

def Expr.render : Expr → String
  | .name name => name
  | .qualified qualifier name => qualifier.render ++ "." ++ name
  | .field scope name => scope.render ++ "." ++ name
  | .call none name args => name ++ renderArgs args
  | .call (some scope) name args => scope.render ++ "." ++ name ++ renderArgs args
  | .methodRef scope name => scope.render ++ "::" ++ name
  | .string value => stringLiteral value
  | .double literal => literal
  | .null => "null"
  | .this => "this"
  | .cast type value => "(" ++ type ++ ") " ++ value.render
  | .paren inner => "(" ++ inner.render ++ ")"
  | .new type args => "new " ++ type ++ renderArgs args
  | .classOf type => type ++ ".class"
  | .assign target value => target.render ++ " = " ++ value.render

/-- An argument list with its parentheses. -/
def renderArgs : List Expr → String
  | [] => "()"
  | arg :: args => "(" ++ arg.render ++ renderMoreArgs args

/-- What follows an argument, through the closing parenthesis. -/
def renderMoreArgs : List Expr → String
  | [] => ")"
  | arg :: args => ", " ++ arg.render ++ renderMoreArgs args

end

def Stmt.render : Stmt → String
  | .expr e => e.render ++ ";"
  | .declare type name init => type ++ " " ++ name ++ " = " ++ init.render ++ ";"
  | .ret value => "return " ++ value.render ++ ";"

def Import.render (i : Import) : String :=
  "import " ++ (if i.isStatic then "static " else "") ++ i.name
    ++ (if i.onDemand then ".*" else "") ++ ";"

def Modifier.render : Modifier → String
  | .public => "public"
  | .protected => "protected"
  | .private => "private"

def Parameter.render (p : Parameter) : String := p.type ++ " " ++ p.name

/-- Four blanks in front, a line feed behind. -/
def indented (line : String) : String := "    " ++ line ++ "\n"

def Method.render (m : Method) : String :=
  m.modifier.render ++ " " ++ m.returnType ++ " " ++ m.name
    ++ "(" ++ ", ".intercalate (m.parameters.map Parameter.render) ++ ")"
    ++ (if m.throws.isEmpty then "" else " throws " ++ ", ".intercalate m.throws)
    ++ " \x7b\n" ++ String.join (m.body.map fun s => indented s.render) ++ "\x7d"

namespace SourceFile

def renderPackage (file : SourceFile) : String :=
  match file.package with
  | some package => "package " ++ package ++ ";\n\n"
  | none => ""

def renderImports (file : SourceFile) : String :=
  match file.imports.getD [] with
  | [] => ""
  | imports => String.join (imports.map fun i => i.render ++ "\n") ++ "\n"

/-- A method inside a class body: every line of it indented. -/
def renderMember (m : Method) : String := String.join ((Text.lines m.render).map indented)

def render (file : SourceFile) : String :=
  file.renderPackage ++ file.renderImports
    ++ "public class " ++ file.typeName ++ " \x7b\n"
    ++ "\n".intercalate (file.methods.map renderMember) ++ "\x7d\n"

end SourceFile

end FxmlCodegen.Java
