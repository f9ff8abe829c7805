import FxmlCodegen.Compile

/-!
# How compiling a document can end

One statement (`Document.compile_outcome`) says all that compiling a
document can do, with the condition of each case and the state it leaves:
four ways to fail and one to succeed. Nothing else looks inside
`Document.compile`.

Two consequences are used throughout. A failure leaves the source files
and the include targets as they were, and no controller active that was
not (`Document.compile_error`). A success is exactly a body that could be
emitted for a controller with a source file, and changes that file alone
(`Document.compile_ok`).

Documents in a row are compiled until one fails: a run of them that all
succeed (`Document.Finishes`), which is all of them
(`Document.compileAll_ok`) or ends before the first that fails
(`Document.compileAll_error`).
-/

namespace FxmlCodegen

open Java (Method SourceFile Sources Stmt)

/-- The scope between two documents: no names are taken and no controller
is active. -/
def Scope.idle (s : Scope) : Scope := { s.clearNames with active := none }

/-- What code generation knows while a document with this controller is
compiled. -/
def Env.compiling (options : Options) (handler : Handler) (scope : Scope) (controller : String) :
    Env :=
  ⟨options, handler, { scope.clearNames with active := some controller }⟩

/-- The source files and the include targets are as they were, and no
controller is active that was not. -/
structure Outcome.LeavesNoTrace {α : Type} (outcome : Outcome α) (scope : Scope)
    (sources : Sources) : Prop where
  sources : outcome.sources = sources
  controllers : outcome.scope.controllers = scope.controllers
  factories : outcome.scope.factories = scope.factories
  active : scope.active = none → outcome.scope.active = none

namespace Document

/-- The source files after the method with this body has been attached to
the file of the controller. -/
def attached (options : Options) (d : Document) (root : Element) (controller : String)
    (stmts : List Stmt) (file : SourceFile) (sources : Sources) : Sources :=
  sources.put controller
    (attachMethod options d.instructions (factoryMethod options root.head.name stmts) file)

/-- The ways compiling a document can end. -/
inductive CompileOutcome (options : Options) (handler : Handler) (d : Document) (scope : Scope)
    (sources : Sources) : Outcome Method → Prop
  | missingRoot (hroot : d.rootObject? = none) :
      CompileOutcome options handler d scope sources
        ⟨.error (.missingRoot d.name), scope.clearNames, sources⟩
  | missingController {root : Element} (hroot : d.rootObject? = some (root, none)) :
      CompileOutcome options handler d scope sources
        ⟨.error (.missingController d.name), scope.clearNames, sources⟩
  | noBody {root : Element} {controller : String} {failure : Failure}
      (hroot : d.rootObject? = some (root, some controller))
      (hbody : body (.compiling options handler scope controller) root = .error failure) :
      CompileOutcome options handler d scope sources ⟨.error failure, scope.idle, sources⟩
  | missingTarget {root : Element} {controller : String} {stmts : List Stmt}
      (hroot : d.rootObject? = some (root, some controller))
      (hbody : body (.compiling options handler scope controller) root = .ok stmts)
      (hfile : sources.get? controller = none) :
      CompileOutcome options handler d scope sources
        ⟨.error (.missingTarget controller d.name), scope.idle, sources⟩
  | done {root : Element} {controller : String} {stmts : List Stmt} {file : SourceFile}
      (hroot : d.rootObject? = some (root, some controller))
      (hbody : body (.compiling options handler scope controller) root = .ok stmts)
      (hfile : sources.get? controller = some file) :
      CompileOutcome options handler d scope sources
        ⟨.ok (factoryMethod options root.head.name stmts), scope.idle,
          d.attached options root controller stmts file sources⟩

variable (options : Options) (handler : Handler) (d : Document) (scope : Scope)
  (sources : Sources)

theorem compile_outcome :
    CompileOutcome options handler d scope sources (d.compile options handler scope sources) := by
  unfold compile
  split
  · rename_i hroot
    exact .missingRoot hroot
  · rename_i root hroot
    exact .missingController hroot
  · rename_i root controller hroot
    dsimp only
    split
    · rename_i failure hbody
      exact .noBody hroot hbody
    · rename_i stmts hbody
      split
      · rename_i hfile
        exact .missingTarget hroot hbody hfile
      · rename_i file hfile
        exact .done hroot hbody hfile

/-- The result by itself. Of the source files only the presence of the
controller's matters. -/
theorem compile_result :
    (d.compile options handler scope sources).result
      = match d.rootObject? with
        | none => .error (.missingRoot d.name)
        | some (_, none) => .error (.missingController d.name)
        | some (root, some controller) =>
          body (.compiling options handler scope controller) root >>= fun stmts =>
            if (sources.get? controller).isSome then
              .ok (factoryMethod options root.head.name stmts)
            else
              .error (.missingTarget controller d.name) := by
  have hout := compile_outcome options handler d scope sources
  generalize d.compile options handler scope sources = outcome at hout
  cases hout with
  | missingRoot hroot => simp only [hroot]
  | missingController hroot => simp only [hroot]
  | noBody hroot hbody =>
      simp only [hroot, hbody]
      rfl
  | missingTarget hroot hbody hfile =>
      simp only [hroot, hbody, hfile]
      rfl
  | done hroot hbody hfile =>
      simp only [hroot, hbody, hfile]
      rfl

variable {options handler d scope sources}

theorem compile_error {failure : Failure}
    (hfail : (d.compile options handler scope sources).result = .error failure) :
    (d.compile options handler scope sources).LeavesNoTrace scope sources := by
  have hout := compile_outcome options handler d scope sources
  generalize d.compile options handler scope sources = outcome at hout hfail
  cases hout with
  | missingRoot => exact ⟨rfl, rfl, rfl, id⟩
  | missingController => exact ⟨rfl, rfl, rfl, id⟩
  | noBody => exact ⟨rfl, rfl, rfl, fun _ => rfl⟩
  | missingTarget => exact ⟨rfl, rfl, rfl, fun _ => rfl⟩
  | done => cases hfail

theorem compile_ok {method : Method}
    (hok : (d.compile options handler scope sources).result = .ok method) :
    ∃ root controller stmts file, d.rootObject? = some (root, some controller)
      ∧ body (.compiling options handler scope controller) root = .ok stmts
      ∧ sources.get? controller = some file
      ∧ method = factoryMethod options root.head.name stmts
      ∧ (d.compile options handler scope sources).scope = scope.idle
      ∧ (d.compile options handler scope sources).sources
        = d.attached options root controller stmts file sources := by
  have hout := compile_outcome options handler d scope sources
  generalize d.compile options handler scope sources = outcome at hout hok
  cases hout with
  | missingRoot => cases hok
  | missingController => cases hok
  | noBody => cases hok
  | missingTarget => cases hok
  | done hroot hbody hfile =>
      cases hok
      exact ⟨_, _, _, _, hroot, hbody, hfile, rfl, rfl, rfl⟩

/-- A root that is an object is the root of the document, with its
controller. -/
theorem rootObject?_eq_some {root : Element} {controller : Option String}
    (hroot : d.rootObject? = some (root, controller)) :
    d.root = some root ∧ root.head.kind = .declaration controller := by
  unfold rootObject? at hroot
  split at hroot
  · rename_i e he
    split at hroot
    · rename_i c hkind
      cases hroot
      exact ⟨he, hkind⟩
    · cases hroot
  · cases hroot

/-- The document can be included: its root is an object with a controller. -/
def Includable (d : Document) : Prop :=
  ∃ root controller, d.rootObject? = some (root, some controller)

/-! ## Documents in a row -/

/-- Compiling the documents in order succeeds with the methods and leaves
the scope and source files given last. -/
inductive Finishes (options : Options) (handler : Handler) :
    List Document → Scope → Sources → List Method → Scope → Sources → Prop
  | nil (scope : Scope) (sources : Sources) :
      Finishes options handler [] scope sources [] scope sources
  | cons {d : Document} {ds : List Document} {scope scope' : Scope} {sources sources' : Sources}
      {method : Method} {methods : List Method}
      (first : (d.compile options handler scope sources).result = .ok method)
      (rest : Finishes options handler ds (d.compile options handler scope sources).scope
        (d.compile options handler scope sources).sources methods scope' sources') :
      Finishes options handler (d :: ds) scope sources (method :: methods) scope' sources'

/-- The include targets are the same throughout a run, and no controller
stays active. -/
theorem Finishes.targets {ds : List Document} {scope scope' : Scope} {sources sources' : Sources}
    {methods : List Method}
    (run : Finishes options handler ds scope sources methods scope' sources') :
    scope'.controllers = scope.controllers ∧ scope'.factories = scope.factories
      ∧ (scope.active = none → scope'.active = none) := by
  induction run with
  | nil => exact ⟨rfl, rfl, id⟩
  | cons first _ ih =>
      obtain ⟨-, -, -, -, -, -, -, -, hscope, -⟩ := compile_ok first
      rw [hscope] at ih
      exact ⟨ih.1, ih.2.1, fun _ => ih.2.2 rfl⟩

/-- Where compiling documents fails, some of them were compiled and the
next one is the one that failed. -/
theorem compileAll_error {failure : Failure} :
    ∀ {ds : List Document} {scope : Scope} {sources : Sources},
      (compileAll options handler ds scope sources).result = .error failure →
      ∃ done d rest methods scope' sources', ds = done ++ d :: rest
        ∧ Finishes options handler done scope sources methods scope' sources'
        ∧ (d.compile options handler scope' sources').result = .error failure
        ∧ (compileAll options handler ds scope sources).scope
          = (d.compile options handler scope' sources').scope
        ∧ (compileAll options handler ds scope sources).sources
          = (d.compile options handler scope' sources').sources
  | [], _, _, hfail => by cases hfail
  | d :: ds, scope, sources, hfail => by
      rw [compileAll] at hfail ⊢
      cases hfirst : (d.compile options handler scope sources).result with
      | error f =>
          simp only [hfirst] at hfail ⊢
          cases hfail
          exact ⟨[], d, ds, [], scope, sources, rfl, .nil scope sources, hfirst, rfl, rfl⟩
      | ok method =>
          simp only [hfirst] at hfail ⊢
          cases hrest : (compileAll options handler ds (d.compile options handler scope sources).scope
              (d.compile options handler scope sources).sources).result with
          | ok methods =>
              simp only [hrest] at hfail
              cases hfail
          | error f =>
              simp only [hrest] at hfail ⊢
              cases hfail
              obtain ⟨done, d', rest, methods, scope', sources', rfl, run, hd', hscope, hsources⟩ :=
                compileAll_error hrest
              exact ⟨d :: done, d', rest, method :: methods, scope', sources', rfl,
                .cons hfirst run, hd', hscope, hsources⟩

theorem compileAll_ok :
    ∀ {ds : List Document} {scope : Scope} {sources : Sources} {methods : List Method},
      (compileAll options handler ds scope sources).result = .ok methods →
      Finishes options handler ds scope sources methods
        (compileAll options handler ds scope sources).scope
        (compileAll options handler ds scope sources).sources
  | [], scope, sources, methods, hok => by
      cases hok
      exact .nil scope sources
  | d :: ds, scope, sources, methods, hok => by
      rw [compileAll] at hok ⊢
      cases hfirst : (d.compile options handler scope sources).result with
      | error failure =>
          simp only [hfirst] at hok
          cases hok
      | ok method =>
          simp only [hfirst] at hok ⊢
          cases hrest : (compileAll options handler ds (d.compile options handler scope sources).scope
              (d.compile options handler scope sources).sources).result with
          | error failure =>
              simp only [hrest] at hok
              cases hok
          | ok rest =>
              simp only [hrest] at hok ⊢
              cases hok
              exact .cons hfirst (compileAll_ok hrest)

end Document

end FxmlCodegen
