import FxmlCodegen.Proofs.CompileOutcome
import FxmlCodegen.Proofs.NamedDocument
import FxmlCodegen.Proofs.SourceUpdates
import Mathlib.Data.List.Forall2

/-!
# What a batch that succeeds has done

A document has its method in a scope (`Document.Makes`), and putting it
into the source files is an update of the file of its controller
(`Document.update`). Compiling succeeds exactly where the document makes a
method and its controller has a file, and then does that update and
nothing else (`Document.compile_of_makes`, `Document.makes_of_compile`).

A batch that succeeds is thus a list of methods and the updates for them
in order (`Document.compileBatch_ok`), all of them made in the one scope
in which the whole batch has been named.
-/

namespace FxmlCodegen.Document

open Java (Method Sources)

/-- The controller of a root that is an object. -/
def controller? (d : Document) : Option String := d.rootObject?.bind (·.2)

/-- The controller, empty if there is none. -/
def controllerText (d : Document) : String := d.controller?.getD ""

/-- The update that attaches the method of the document. -/
def update (options : Options) (d : Document) (method : Method) : Sources.Update :=
  ⟨d.controllerText, attachMethod options d.instructions method⟩

/-- In this scope the document has this method. -/
def Makes (options : Options) (handler : Handler) (scope : Scope) (d : Document)
    (method : Method) : Prop :=
  ∃ root controller stmts, d.rootObject? = some (root, some controller)
    ∧ body (.compiling options handler scope controller) root = .ok stmts
    ∧ method = factoryMethod options root.head.name stmts

theorem controller?_of_rootObject? {d : Document} {root : Element} {controller : Option String}
    (hroot : d.rootObject? = some (root, controller)) : d.controller? = controller := by
  rw [controller?, hroot]
  rfl

theorem controller?_named (d : Document) : d.named.controller? = d.controller? := by
  rw [controller?, controller?, rootObject?_named]
  cases d.rootObject? <;> rfl

theorem controllerText_named (d : Document) : d.named.controllerText = d.controllerText := by
  rw [controllerText, controllerText, controller?_named]

theorem update_named (options : Options) (d : Document) (method : Method) :
    d.named.update options method = d.update options method := by
  rw [update, update, controllerText_named, instructions_named]

variable {options : Options} {handler : Handler} {scope : Scope} {d : Document} {method : Method}

/-! ## One document -/

theorem attached_eq_apply {root : Element} {controller : String} {file : Java.SourceFile}
    {sources : Sources} {stmts : List Java.Stmt}
    (hroot : d.rootObject? = some (root, some controller))
    (hfile : sources.get? controller = some file) :
    d.attached options root controller stmts file sources
      = sources.apply (d.update options (factoryMethod options root.head.name stmts)) := by
  have hcontroller : d.controllerText = controller := by
    rw [controllerText, controller?_of_rootObject? hroot, Option.getD_some]
  simp only [attached, update, Sources.apply, Sources.modify, hcontroller, hfile]

theorem compile_of_makes (hmakes : d.Makes options handler scope method) {sources : Sources}
    (hfile : (sources.get? d.controllerText).isSome = true) :
    d.compile options handler scope sources
      = ⟨.ok method, scope.idle, sources.apply (d.update options method)⟩ := by
  obtain ⟨root, controller, stmts, hroot, hbody, rfl⟩ := hmakes
  rw [controllerText, controller?_of_rootObject? hroot, Option.getD_some] at hfile
  obtain ⟨file, hfile⟩ := Option.isSome_iff_exists.mp hfile
  rw [← attached_eq_apply hroot hfile]
  unfold Env.compiling at hbody
  simp only [compile, hroot, hbody, hfile, Scope.idle, attached]

theorem makes_of_compile {sources : Sources}
    (hok : (d.compile options handler scope sources).result = .ok method) :
    d.Makes options handler scope method
      ∧ (sources.get? d.controllerText).isSome = true := by
  obtain ⟨root, controller, stmts, file, hroot, hbody, hfile, hmethod, -, -⟩ := compile_ok hok
  refine ⟨⟨root, controller, stmts, hroot, hbody, hmethod⟩, ?_⟩
  rw [controllerText, controller?_of_rootObject? hroot, Option.getD_some, hfile]
  rfl

/-! ## A batch -/

theorem Finishes.makes {ds : List Document} {scope scope' : Scope} {sources sources' : Sources}
    {methods : List Method}
    (run : Finishes options handler ds scope sources methods scope' sources') :
    List.Forall₂ (fun d method => d.Makes options handler scope method
        ∧ (sources.get? d.controllerText).isSome = true) ds methods
      ∧ sources' = sources.applyAll (List.zipWith (update options) ds methods) := by
  induction run with
  | nil => exact ⟨.nil, rfl⟩
  | @cons d ds scope scope' sources sources' method methods first rest ih =>
      obtain ⟨hmakes, hfile⟩ := makes_of_compile first
      rw [compile_of_makes hmakes hfile] at ih
      obtain ⟨hall, rfl⟩ := ih
      refine ⟨.cons ⟨hmakes, hfile⟩ (hall.imp fun e m he => ⟨he.1, ?_⟩), rfl⟩
      -- Updates make no file, so those later documents find were there.
      rw [← sources.isSome_get?_apply (d.update options method)]
      exact he.2

/-- Each document has the method at its position, made where the whole
batch has been named, and a file to put it into. -/
def AllMake (options : Options) (handler : Handler) (ds : List Document) (sources : Sources)
    (methods : List Method) : Prop :=
  List.Forall₂ (fun d method => d.named.Makes options handler (identifyAll ds {}).2 method
    ∧ (sources.get? d.controllerText).isSome = true) ds methods

theorem compileBatch_ok {ds : List Document} {sources : Sources} {methods : List Method}
    (hok : (compileBatch options handler ds sources).2.result = .ok methods) :
    AllMake options handler ds sources methods
      ∧ (compileBatch options handler ds sources).2.sources
        = sources.applyAll (List.zipWith (update options) ds methods) := by
  obtain ⟨hall, hfinal⟩ := (compileAll_ok hok).makes
  rw [identifyAll_fst] at hall hfinal
  rw [List.forall₂_map_left_iff] at hall
  simp only [controllerText_named] at hall
  refine ⟨hall, ?_⟩
  rw [List.zipWith_map_left] at hfinal
  simp only [update_named] at hfinal
  simp only [compileBatch, identifyAll_fst]
  exact hfinal

namespace AllMake

variable {ds : List Document} {sources : Sources} {methods : List Method}

theorem getElem? (hall : AllMake options handler ds sources methods) {i : Nat}
    (hd : ds[i]? = some d) : ∃ method, methods[i]? = some method
      ∧ d.named.Makes options handler (identifyAll ds {}).2 method
      ∧ (sources.get? d.controllerText).isSome = true := by
  obtain ⟨hi, rfl⟩ := List.getElem?_eq_some_iff.mp hd
  have hi' : i < methods.length := hall.length_eq ▸ hi
  exact ⟨methods[i], List.getElem?_eq_getElem hi', hall.get hi hi'⟩

theorem includable (hall : AllMake options handler ds sources methods) :
    ∀ d ∈ ds, d.Includable := by
  intro d hd
  obtain ⟨i, hi⟩ := List.getElem?_of_mem hd
  obtain ⟨method, -, ⟨named, controller, stmts, hroot, -, -⟩, -⟩ := hall.getElem? hi
  rw [rootObject?_named, Option.map_eq_some_iff] at hroot
  obtain ⟨⟨root, c⟩, hroot, heq⟩ := hroot
  cases heq
  exact ⟨root, controller, hroot⟩

end AllMake

end FxmlCodegen.Document
