import FxmlCodegen.Java.SourceFile
import FxmlCodegen.Json.Fields

/-!
# JSON form of the code model

An expression or statement is an object whose `kind` says which node it
is; a type is a plain string. Encoders write every field. Decoders skip
fields they do not know and refuse a known field given twice. As for
documents, an array with the values of the fields is not taken for the
object.
-/

namespace FxmlCodegen.Java

open Json (Fields)

/-! ## Encoding -/

def node (kind : String) (fields : Fields) : Json := .obj (("kind", .str kind) :: fields)

mutual

def Expr.toJson : Expr → Json
  | .name name => node "name" [("name", .str name)]
  | .qualified qualifier name =>
    node "qualified-name" [("qualifier", qualifier.toJson), ("name", .str name)]
  | .field scope name => node "field-access" [("scope", scope.toJson), ("field", .str name)]
  | .call none name args =>
    node "method-call" [("scope", .null), ("name", .str name), ("args", .arr (exprsToJson args))]
  | .call (some scope) name args =>
    node "method-call"
      [("scope", scope.toJson), ("name", .str name), ("args", .arr (exprsToJson args))]
  | .methodRef scope name => node "method-reference" [("scope", scope.toJson), ("name", .str name)]
  | .string value => node "string-literal" [("value", .str value)]
  | .double literal => node "double-literal" [("value", .str literal)]
  | .null => node "null-literal" []
  | .this => node "this" []
  | .cast type value => node "cast" [("ty", .str type), ("expr", value.toJson)]
  | .paren inner => node "enclosed" [("inner", inner.toJson)]
  | .new type args => node "object-creation" [("ty", .str type), ("args", .arr (exprsToJson args))]
  | .classOf type => node "class" [("ty", .str type)]
  | .assign target value => node "assign" [("target", target.toJson), ("value", value.toJson)]

def exprsToJson : List Expr → List Json
  | [] => []
  | e :: es => e.toJson :: exprsToJson es

end

def Stmt.toJson : Stmt → Json
  | .expr e => node "expression" [("expr", e.toJson)]
  | .declare type name init =>
    node "variable-declaration" [("ty", .str type), ("name", .str name), ("init", init.toJson)]
  | .ret value => node "return" [("expr", value.toJson)]

def Import.toJson (i : Import) : Json :=
  .obj [("name", .str i.name), ("isStatic", .bool i.isStatic), ("isAsterisk", .bool i.onDemand)]

def Modifier.toJson : Modifier → Json
  | .public => .str "public"
  | .protected => .str "protected"
  | .private => .str "private"

def Parameter.toJson (p : Parameter) : Json := .obj [("ty", .str p.type), ("name", .str p.name)]

def Method.toJson (m : Method) : Json :=
  .obj [("modifier", m.modifier.toJson), ("returnType", .str m.returnType), ("name", .str m.name),
    ("parameters", .arr (m.parameters.map Parameter.toJson)), ("throws", .strings m.throws),
    ("body", .arr (m.body.map Stmt.toJson))]

def SourceFile.toJson (file : SourceFile) : Json :=
  .obj [("package", .ofString? file.package),
    ("imports", match file.imports with
      | some imports => .arr (imports.map Import.toJson)
      | none => .null),
    ("typeName", .str file.typeName), ("members", .arr (file.methods.map Method.toJson))]

/-! ## Decoding -/

/-- The string under a key. -/
def stringAt? (key : String) (fields : Fields) : Option String :=
  fields.required key Json.string?

/-- The fields of a node besides `kind`. A node of unknown kind has
none. -/
def Expr.fieldNames (kind : String) : List String :=
  match kind with
  | "name" => ["name"]
  | "qualified-name" => ["qualifier", "name"]
  | "field-access" => ["scope", "field"]
  | "method-call" => ["scope", "name", "args"]
  | "method-reference" => ["scope", "name"]
  | "string-literal" => ["value"]
  | "double-literal" => ["value"]
  | "cast" => ["ty", "expr"]
  | "enclosed" => ["inner"]
  | "object-creation" => ["ty", "args"]
  | "class" => ["ty"]
  | "assign" => ["target", "value"]
  | _ => []

/-- All kinds, in the order by which an inner expression may refer to
them. -/
def Expr.kinds : List String :=
  ["name", "qualified-name", "field-access", "method-call", "method-reference", "string-literal",
    "double-literal", "null-literal", "this", "cast", "enclosed", "object-creation", "class",
    "assign"]

mutual

/-- An expression whose kind is given in this form. Those inside it, as
those inside a statement, may give theirs by position. -/
def Expr.ofJsonBy? (form : Json.TagForm) : Json → Option Expr
  | .obj fields => do
    match ← Fields.tag? fields form "kind" Expr.kinds Expr.fieldNames with
    | "name" => some (.name (← stringAt? "name" fields))
    | "qualified-name" =>
      some (.qualified (← exprAt? "qualifier" fields) (← stringAt? "name" fields))
    | "field-access" =>
      some (.field (← exprAt? "scope" fields) (← stringAt? "field" fields))
    | "method-call" =>
      some (.call (← optionalExprAt? "scope" fields) (← stringAt? "name" fields)
        (← exprsAt? "args" fields))
    | "method-reference" =>
      some (.methodRef (← exprAt? "scope" fields) (← stringAt? "name" fields))
    | "string-literal" => some (.string (← stringAt? "value" fields))
    | "double-literal" => some (.double (← stringAt? "value" fields))
    | "null-literal" => some .null
    | "this" => some .this
    | "cast" => some (.cast (← stringAt? "ty" fields) (← exprAt? "expr" fields))
    | "enclosed" => some (.paren (← exprAt? "inner" fields))
    | "object-creation" =>
      some (.new (← stringAt? "ty" fields) (← exprsAt? "args" fields))
    | "class" => some (.classOf (← stringAt? "ty" fields))
    | "assign" => some (.assign (← exprAt? "target" fields) (← exprAt? "value" fields))
    | _ => none
  | _ => none

/-- The expression under a key. -/
def exprAt? (key : String) : List (String × Json) → Option Expr
  | [] => none
  | (k, value) :: fields => if key == k then Expr.ofJsonBy? .nameOrPosition value else exprAt? key fields

/-- The expression under a key that may be absent or `null`. -/
def optionalExprAt? (key : String) : List (String × Json) → Option (Option Expr)
  | [] => some none
  | (k, .null) :: fields => if key == k then some none else optionalExprAt? key fields
  | (k, value) :: fields =>
    if key == k then (Expr.ofJsonBy? .nameOrPosition value).map some else optionalExprAt? key fields

/-- The list of expressions under a key. -/
def exprsAt? (key : String) : List (String × Json) → Option (List Expr)
  | [] => none
  | (k, .arr items) :: fields => if key == k then exprsOfJson? items else exprsAt? key fields
  | (k, _) :: fields => if key == k then none else exprsAt? key fields

def exprsOfJson? : List Json → Option (List Expr)
  | [] => some []
  | item :: items => do some ((← Expr.ofJsonBy? .nameOrPosition item) :: (← exprsOfJson? items))

end

def Expr.ofJson? (json : Json) : Option Expr := Expr.ofJsonBy? .name json

def Stmt.kinds : List String := ["expression", "variable-declaration", "return"]

def Stmt.fieldNames (kind : String) : List String :=
  match kind with
  | "expression" => ["expr"]
  | "variable-declaration" => ["ty", "name", "init"]
  | "return" => ["expr"]
  | _ => []

def Stmt.ofJson? (json : Json) : Option Stmt := do
  let fields ← json.fields?
  match ← fields.tag? .name "kind" Stmt.kinds Stmt.fieldNames with
  | "expression" => some (.expr (← exprAt? "expr" fields))
  | "variable-declaration" =>
    some (.declare (← stringAt? "ty" fields) (← stringAt? "name" fields)
      (← exprAt? "init" fields))
  | "return" => some (.ret (← exprAt? "expr" fields))
  | _ => none

def Import.ofJson? (json : Json) : Option Import := do
  let fields ← Json.fieldsOnce? ["name", "isStatic", "isAsterisk"] json
  some ⟨← stringAt? "name" fields, ← fields.required "isStatic" Json.bool?,
    ← fields.required "isAsterisk" Json.bool?⟩

def Modifier.ofJson? : Json → Option Modifier
  | .str "public" => some .public
  | .str "protected" => some .protected
  | .str "private" => some .private
  | _ => none

def Parameter.ofJson? (json : Json) : Option Parameter := do
  let fields ← Json.fieldsOnce? ["ty", "name"] json
  some ⟨← stringAt? "ty" fields, ← stringAt? "name" fields⟩

def Method.ofJson? (json : Json) : Option Method := do
  let fields ←
    Json.fieldsOnce? ["modifier", "returnType", "name", "parameters", "throws", "body"] json
  some {
    modifier := ← fields.required "modifier" Modifier.ofJson?
    returnType := ← stringAt? "returnType" fields
    name := ← stringAt? "name" fields
    parameters := ← fields.items "parameters" Parameter.ofJson?
    throws := ← fields.items "throws" Json.string?
    body := ← fields.required "body" fun body => do (← body.list?).mapM Stmt.ofJson? }

def SourceFile.ofJson? (json : Json) : Option SourceFile := do
  let fields ← Json.fieldsOnce? ["package", "imports", "typeName", "members"] json
  some {
    package := ← fields.optional "package" Json.string?
    imports := ← fields.optional "imports" fun imports => do
      (← imports.list?).mapM Import.ofJson?
    typeName := ← stringAt? "typeName" fields
    methods := ← fields.items "members" Method.ofJson? }

end FxmlCodegen.Java
