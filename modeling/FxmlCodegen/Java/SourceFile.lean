import FxmlCodegen.Java.Expr

/-!
# Java source files

Methods, imports, and the source file of one class with the parts code
generation touches: package, imports and methods.
-/

namespace FxmlCodegen.Java

structure Import where
  name : String
  isStatic : Bool
  /-- Imports every type of the package `name`. -/
  onDemand : Bool
  deriving DecidableEq, Inhabited

inductive Modifier where
  | «public»
  | «protected»
  | «private»
  deriving DecidableEq, Inhabited

structure Parameter where
  type : TypeName
  name : String
  deriving DecidableEq, Inhabited

structure Method where
  modifier : Modifier
  returnType : TypeName
  name : String
  parameters : List Parameter := []
  throws : List TypeName := []
  body : List Stmt
  deriving Inhabited

structure SourceFile where
  package : Option String
  /-- `none` until the first import is asked for. -/
  imports : Option (List Import)
  typeName : String
  methods : List Method
  deriving Inhabited

namespace SourceFile

/-- The empty source file of a class given by its qualified name. -/
def ofType (qualified : String) : SourceFile :=
  match Text.cutLast '.' qualified with
  | some (package, typeName) => ⟨some package, none, typeName, []⟩
  | none => ⟨none, none, qualified, []⟩

def qualifiedName (file : SourceFile) : String :=
  match file.package with
  | some package => package ++ "." ++ file.typeName
  | none => file.typeName

/-- The first method of this name. -/
def method? (file : SourceFile) (name : String) : Option Method :=
  file.methods.find? (·.name == name)

def addMethod (file : SourceFile) (method : Method) : SourceFile :=
  { file with methods := file.methods ++ [method] }

/-- Removes the methods without parameters that bear one of the names. -/
def removeMethods (file : SourceFile) (names : List String) : SourceFile :=
  { file with
    methods := file.methods.filter fun m => !(names.contains m.name && m.parameters.isEmpty) }

/-- Applies `f` to the import list, created empty if there is none. -/
def modifyImports (file : SourceFile) (f : List Import → List Import) : SourceFile :=
  { file with imports := some (f (file.imports.getD [])) }

end SourceFile

end FxmlCodegen.Java
