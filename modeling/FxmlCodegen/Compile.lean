import FxmlCodegen.Document.Reader
import FxmlCodegen.Emit.Element
import FxmlCodegen.Java.Sources
import FxmlCodegen.Naming.Identify

/-!
# Compiling documents

A document becomes one public method without parameters on its
controller, named by the options, that builds the root object and
returns it. Its imports go to the controller's source file. A batch is
named as a whole before its first document is compiled; the first
failure ends it, and what was compiled before stays.

Compilation changes the scope and the source files also when it fails,
so results carry both.
-/

namespace FxmlCodegen

open Java (Import Method SourceFile Sources)

/-- A result together with the state it leaves behind. -/
structure Outcome (α : Type) where
  result : Except Failure α
  scope : Scope
  sources : Sources

/-! ## Imports -/

/-- The Java import an instruction asks for. -/
def Instruction.toImport? (options : Options) : Instruction → Option Import
  | .import path wholePackage =>
    if path = options.implicitPackage then none else some ⟨path, false, wholePackage⟩
  | .language _ => none

/-- Adds the imports of instructions that are not there yet. -/
def addImports (options : Options) (instructions : List Instruction) (imports : List Import) :
    List Import :=
  instructions.foldl (fun imports instruction =>
    match instruction.toImport? options with
    | some i => if imports.contains i then imports else imports ++ [i]
    | none => imports) imports

/-! ## One document -/

/-- The factory method with this body. -/
def factoryMethod (options : Options) (rootType : Java.TypeName) (body : List Java.Stmt) :
    Method where
  modifier := .public
  returnType := rootType
  name := options.methodName
  throws := [options.throws]
  body := body

/-- The source file with the imports of a document and its method. -/
def attachMethod (options : Options) (instructions : List Instruction) (method : Method)
    (file : SourceFile) : SourceFile :=
  let file :=
    if instructions.isEmpty then file else file.modifyImports (addImports options instructions)
  let file := if options.replaceExisting then file.removeMethods [options.methodName] else file
  file.addMethod method

namespace Document

/-- The root with its controller, if it is an object. -/
def rootObject? (d : Document) : Option (Element × Option String) :=
  match d.root with
  | some root =>
    match root.head.kind with
    | .declaration controller => some (root, controller)
    | _ => none
  | none => none

/-- The body of the factory method of a document with this root. -/
def body (env : Env) (root : Element) : Except Failure (List Java.Stmt) := do
  let fragment ← root.emit env .root
  return (fragment.map Fragment.code).getD []

/-- Compiles a document whose identifiers have been assigned. -/
def compile (options : Options) (handler : Handler) (d : Document) (scope : Scope)
    (sources : Sources) : Outcome Method :=
  let scope := scope.clearNames
  match d.rootObject? with
  | none => ⟨.error (.missingRoot d.name), scope, sources⟩
  | some (_, none) => ⟨.error (.missingController d.name), scope, sources⟩
  | some (root, some controller) =>
    let idle := { scope with active := none }
    match body ⟨options, handler, { scope with active := some controller }⟩ root with
    | .error failure => ⟨.error failure, idle, sources⟩
    | .ok stmts =>
      match sources.get? controller with
      | none => ⟨.error (.missingTarget controller d.name), idle, sources⟩
      | some file =>
        let method := factoryMethod options root.head.name stmts
        let file := attachMethod options d.instructions method file
        ⟨.ok method, idle, sources.put controller file⟩

/-! ## Batches -/

/-- Compiles documents in order, up to the first failure. -/
def compileAll (options : Options) (handler : Handler) :
    List Document → Scope → Sources → Outcome (List Method)
  | [], scope, sources => ⟨.ok [], scope, sources⟩
  | d :: ds, scope, sources =>
    let first := d.compile options handler scope sources
    match first.result with
    | .error failure => ⟨.error failure, first.scope, first.sources⟩
    | .ok method =>
      let rest := compileAll options handler ds first.scope first.sources
      match rest.result with
      | .error failure => ⟨.error failure, rest.scope, rest.sources⟩
      | .ok methods => ⟨.ok (method :: methods), rest.scope, rest.sources⟩

/-- Names all documents, then compiles them. Gives the named documents
as well. -/
def compileBatch (options : Options) (handler : Handler) (ds : List Document)
    (sources : Sources) : List Document × Outcome (List Method) :=
  let (ds, scope) := identifyAll ds {}
  (ds, compileAll options handler ds scope sources)

/-- Reads a document. -/
def read (name source : String) : Except Failure Document :=
  (ofMarkup name source).mapError (.unreadableMarkup name)

/-- Reads, names and compiles a document by itself. The only document it
can include is itself. -/
def compileSource (options : Options) (handler : Handler) (name source : String)
    (sources : Sources) : Except Failure Method × Sources :=
  match read name source with
  | .error failure => (.error failure, sources)
  | .ok d =>
    let (d, scope) := d.identify {}
    let outcome := d.compile options handler scope sources
    (outcome.result, outcome.sources)

end Document

end FxmlCodegen
