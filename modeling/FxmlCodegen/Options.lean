import FxmlCodegen.Json.Fields
import FxmlCodegen.Json.Reader

/-!
# Options

The names generated code relies on. Every option has a default, so a
JSON form spells out only what differs.
-/

namespace FxmlCodegen

structure Options where
  /-- The generated factory method. -/
  methodName : String := "create"
  /-- The method called on the controller before the root is returned. -/
  initializeHook : String := "initialize"
  /-- The variable that holds the resource bundle. -/
  bundle : String := "bundle"
  /-- The variable through which included documents are reached. -/
  modelFacade : String := "modelFacade"
  /-- The method of the facade that gives the controller factory. -/
  factoryMethod : String := "factory"
  /-- The method of the controller factory that makes a controller. -/
  factoryCall : String := "call"
  /-- The exception the generated method declares. -/
  throws : String := "java.lang.Exception"
  /-- The package whose imports are dropped. -/
  implicitPackage : String := "java.lang"
  /-- Whether an earlier method of the same name is removed. -/
  replaceExisting : Bool := true
  deriving DecidableEq, Inhabited

namespace Options

def fieldNames : List String :=
  ["methodName", "initializeHook", "bundle", "modelFacade", "factoryMethod", "factoryCall",
    "throws", "implicitPackage", "replaceExisting"]

def toJson (o : Options) : Json :=
  .obj [("methodName", .str o.methodName), ("initializeHook", .str o.initializeHook),
    ("bundle", .str o.bundle), ("modelFacade", .str o.modelFacade),
    ("factoryMethod", .str o.factoryMethod), ("factoryCall", .str o.factoryCall),
    ("throws", .str o.throws), ("implicitPackage", .str o.implicitPackage),
    ("replaceExisting", .bool o.replaceExisting)]

def ofJson? (json : Json) : Option Options := do
  let fields ← Json.fieldsOnce? fieldNames json
  let base : Options := {}
  some {
    methodName := ← fields.withDefault "methodName" base.methodName Json.string?
    initializeHook := ← fields.withDefault "initializeHook" base.initializeHook Json.string?
    bundle := ← fields.withDefault "bundle" base.bundle Json.string?
    modelFacade := ← fields.withDefault "modelFacade" base.modelFacade Json.string?
    factoryMethod := ← fields.withDefault "factoryMethod" base.factoryMethod Json.string?
    factoryCall := ← fields.withDefault "factoryCall" base.factoryCall Json.string?
    throws := ← fields.withDefault "throws" base.throws Json.string?
    implicitPackage := ← fields.withDefault "implicitPackage" base.implicitPackage Json.string?
    replaceExisting := ← fields.withDefault "replaceExisting" base.replaceExisting Json.bool? }

def ofText? (text : String) : Option Options := do ofJson? (← Json.parse? text)

end Options

end FxmlCodegen
