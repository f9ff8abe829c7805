import FxmlCodegen.Proofs.AttachedMethods
import FxmlCodegen.Proofs.IncludeStatements

/-!
# The factory methods a batch leaves

Each document of a batch that compiles gets a factory method on its
controller, but where earlier methods are replaced, the method of a later
document with the same controller takes its place. What is left on a
controller is the method of the last document for it
(`Document.callable_of_compileBatch`).

So a document finds its own root type on its controller, and an include of
it declares the type that the called method returns, for all documents of
the batch exactly if documents with one controller have one root type
(`Document.compileBatch_factories_iff`). Nothing checks that they do:
`rivals` is a batch that compiles although an include in it declares a
variable of another type than the method returns.
-/

namespace FxmlCodegen

open Java (Method SourceFile Sources Stmt)

/-! ## Calls and what they return -/

/-- The methods a call of this name without arguments can mean. -/
def Java.SourceFile.callable (file : SourceFile) (name : String) : List Method :=
  file.methods.filter fun m => m.name = name && m.parameters.isEmpty

/-- A variable declared for what a method of a controller returns. -/
structure Java.FactoryCall where
  type : Java.TypeName
  controller : Java.TypeName
  method : String

/-- The call a declaration takes its value from, if it is one on an object
cast to a controller. -/
def Java.Stmt.factoryCall? : Stmt → Option Java.FactoryCall
  | .declare type _ (.call (some (.paren (.cast controller _))) method []) =>
    some ⟨type, controller, method⟩
  | _ => none

/-- There is one method the call can mean, and it returns the declared
type. -/
def Java.Stmt.CallTyped (sources : Sources) (stmt : Stmt) : Prop :=
  ∀ call ∈ stmt.factoryCall?, ∃ file ∈ sources.get? call.controller,
    (file.callable call.method).map (·.returnType) = [call.type]

instance (sources : Sources) (stmt : Stmt) : Decidable (stmt.CallTyped sources) :=
  inferInstanceAs (Decidable (∀ call ∈ stmt.factoryCall?, ∃ file ∈ sources.get? call.controller, _))

theorem Java.Stmt.callTyped_of_factoryCall? {stmt : Stmt} (hnone : stmt.factoryCall? = none)
    (sources : Sources) : stmt.CallTyped sources := by
  intro call hcall
  rw [hnone] at hcall
  cases hcall

theorem callable_attachAll {options : Options} (hreplace : options.replaceExisting = true)
    {done : List (Document × Method)} (hfactory : ∀ p ∈ done, p.2.isFactory options = true)
    {last : Document × Method} (hlast : done.getLast? = some last) (file : SourceFile) :
    (attachAll options done file).callable options.methodName = [last.2] := by
  have hm : last.2.isFactory options = true := hfactory last (List.mem_of_getLast? hlast)
  rw [attachAll_eq hreplace hfactory, hlast]
  show (methodsAfter options (some last.2) file.methods).filter (·.isFactory options) = _
  simp [methodsAfter, List.filter_filter, hm]

namespace Document

variable {options : Options} {handler : Handler} {ds : List Document} {sources : Sources}
  {methods : List Method}

/-- The type of a root that is an object. -/
def rootType? (d : Document) : Option Java.TypeName := d.rootObject?.map (·.1.head.name)

theorem rootType?_named (d : Document) : d.named.rootType? = d.rootType? := by
  rw [rootType?, rootType?, rootObject?_named, Option.map_map]
  congr 1
  funext root
  exact root.1.head_name_identify "" root.1.fxIds

theorem rootType?_of_rootObject? {d : Document} {root : Element} {controller : Option String}
    (hroot : d.rootObject? = some (root, controller)) : d.rootType? = some root.head.name := by
  rw [rootType?, hroot, Option.map_some]

theorem Makes.rootType? {scope : Scope} {d : Document} {method : Method}
    (hmakes : d.Makes options handler scope method) : d.rootType? = some method.returnType := by
  obtain ⟨root, controller, stmts, hroot, -, rfl⟩ := hmakes
  exact rootType?_of_rootObject? hroot

/-! ## What is left on a controller -/

theorem controllerText_of_controller? {d : Document} {controller : String}
    (hc : d.controller? = some controller) : d.controllerText = controller := by
  rw [controllerText, hc, Option.getD_some]

/-- The documents of a batch that compiles, each with its method. -/
theorem AllMake.makes_of_mem_zip (hall : AllMake options handler ds sources methods)
    {p : Document × Method} (hp : p ∈ ds.zip methods) :
    p.1.named.Makes options handler (identifyAll ds {}).2 p.2 :=
  ((List.forall₂_iff_zip.mp hall).2 hp).1

/-- After a batch that compiles, the controller of each document has one
factory method, that of the last document for this controller. -/
theorem callable_of_compileBatch (hreplace : options.replaceExisting = true)
    (hok : (compileBatch options handler ds sources).2.result = .ok methods) {d : Document}
    (hd : d ∈ ds) {controller : String} (hc : d.controller? = some controller) :
    ∃ file last type, (compileBatch options handler ds sources).2.sources.get? controller = some file
      ∧ (ds.filter (·.controllerText = controller)).getLast? = some last
      ∧ last.rootType? = some type
      ∧ (file.callable options.methodName).map (·.returnType) = [type] := by
  obtain ⟨hall, hfinal⟩ := compileBatch_ok hok
  let done := (ds.zip methods).filter (·.1.controllerText = controller)
  have hfactory : ∀ p ∈ done, p.2.isFactory options = true := fun p hp =>
    (hall.makes_of_mem_zip (List.mem_of_mem_filter hp)).isFactory
  have hdone : done.map Prod.fst = ds.filter (·.controllerText = controller) := by
    calc done.map Prod.fst
        = ((ds.zip methods).map Prod.fst).filter (·.controllerText = controller) := by
          rw [List.filter_map]
          rfl
      _ = ds.filter (·.controllerText = controller) := by
          rw [List.map_fst_zip (Nat.le_of_eq hall.length_eq)]
  have htext : d.controllerText = controller := controllerText_of_controller? hc
  obtain ⟨p, hlast⟩ : ∃ p, done.getLast? = some p := by
    have hmem : d ∈ done.map Prod.fst := by
      rw [hdone]
      exact List.mem_filter.mpr ⟨hd, decide_eq_true htext⟩
    obtain ⟨p, hp, -⟩ := List.mem_map.mp hmem
    exact ⟨_, List.getLast?_eq_some_getLast (List.ne_nil_of_mem hp)⟩
  obtain ⟨file, hfile⟩ : ∃ file, sources.get? controller = some file := by
    obtain ⟨i, hi⟩ := List.getElem?_of_mem hd
    obtain ⟨-, -, -, hfile⟩ := hall.getElem? hi
    rw [htext] at hfile
    exact Option.isSome_iff_exists.mp hfile
  refine ⟨attachAll options done file, p.1, p.2.returnType, ?_, ?_, ?_, ?_⟩
  · have hupdates : List.zipWith (update options) ds methods = updates options (ds.zip methods) :=
      List.map_uncurry_zip_eq_zipWith.symm
    rw [hfinal, hupdates, Sources.get?_applyAll, hfile, Option.map_some, changes_updates]
  · rw [← hdone, List.getLast?_map, hlast, Option.map_some]
  · have hmem : p ∈ ds.zip methods := List.mem_of_mem_filter (List.mem_of_getLast? hlast)
    rw [← rootType?_named]
    exact (hall.makes_of_mem_zip hmem).rootType?
  · rw [callable_attachAll hreplace hfactory hlast]
    rfl

/-! ## Whose types agree -/

/-- The file of the document's controller has a method without parameters,
of the configured name, that returns the type of the document's root. -/
def HasFactory (options : Options) (sources : Sources) (d : Document) : Prop :=
  ∃ controller ∈ d.controller?, ∃ type ∈ d.rootType?, ∃ file ∈ sources.get? controller,
    ∃ m ∈ file.methods, m.name = options.methodName ∧ m.parameters = [] ∧ m.returnType = type

instance (options : Options) (sources : Sources) (d : Document) :
    Decidable (d.HasFactory options sources) :=
  inferInstanceAs (Decidable (∃ controller ∈ d.controller?, ∃ type ∈ d.rootType?,
    ∃ file ∈ sources.get? controller, ∃ m ∈ file.methods, _))

/-- Documents with one controller have one root type. -/
def RootTypesAgree (ds : List Document) : Prop :=
  ∀ d ∈ ds, ∀ e ∈ ds, d.controller? = e.controller? → d.rootType? = e.rootType?

instance (ds : List Document) : Decidable (RootTypesAgree ds) :=
  inferInstanceAs (Decidable (∀ d ∈ ds, ∀ e ∈ ds, _ → _))

theorem hasFactory_iff {final : Sources} {d : Document} :
    d.HasFactory options final
      ↔ ∃ controller ∈ d.controller?, ∃ type ∈ d.rootType?, ∃ file ∈ final.get? controller,
        type ∈ (file.callable options.methodName).map (·.returnType) := by
  simp [HasFactory, SourceFile.callable, and_assoc]

theorem exists_controller_rootType (hall : AllMake options handler ds sources methods) {d : Document}
    (hd : d ∈ ds) : ∃ controller type, d.controller? = some controller ∧ d.rootType? = some type := by
  obtain ⟨root, controller, hroot⟩ := hall.includable d hd
  exact ⟨controller, root.head.name, controller?_of_rootObject? hroot, rootType?_of_rootObject? hroot⟩

/-- Where root types agree, the one factory method on the controller of a
document returns its root type. -/
theorem callable_of_rootTypesAgree (hreplace : options.replaceExisting = true)
    (hok : (compileBatch options handler ds sources).2.result = .ok methods)
    (hagree : RootTypesAgree ds) {d : Document} (hd : d ∈ ds) {controller type : String}
    (hc : d.controller? = some controller) (htype : d.rootType? = some type) :
    ∃ file ∈ (compileBatch options handler ds sources).2.sources.get? controller,
      (file.callable options.methodName).map (·.returnType) = [type] := by
  obtain ⟨hall, -⟩ := compileBatch_ok hok
  obtain ⟨file, last, type', hfile, hlast, htype', hcallable⟩ :=
    callable_of_compileBatch hreplace hok hd hc
  obtain ⟨hmem, hlastc⟩ := List.mem_filter.mp (List.mem_of_getLast? hlast)
  obtain ⟨c, -, hc', -⟩ := exists_controller_rootType hall hmem
  have hsame : d.controller? = last.controller? := by
    rw [hc, hc', ← of_decide_eq_true hlastc, controllerText_of_controller? hc']
  rw [← hagree d hd last hmem hsame, htype] at htype'
  cases htype'
  exact ⟨file, hfile, hcallable⟩

theorem rootType?_of_hasFactory {final : Sources} {d : Document} (hd : d.HasFactory options final)
    {controller type : String} {file : SourceFile} (hc : d.controller? = some controller)
    (hfile : final.get? controller = some file)
    (hcallable : (file.callable options.methodName).map (·.returnType) = [type]) :
    d.rootType? = some type := by
  obtain ⟨c, hc', type', htype', file', hfile', hmem⟩ := hasFactory_iff.mp hd
  rw [Option.mem_def, hc] at hc'
  cases hc'
  rw [Option.mem_def, hfile] at hfile'
  cases hfile'
  rw [hcallable, List.mem_singleton] at hmem
  rw [← hmem]
  exact htype'

/-- Where root types agree, what is declared for an element has the type
that the called method returns. -/
theorem Declares.callTyped (hreplace : options.replaceExisting = true)
    (hok : (compileBatch options handler ds sources).2.result = .ok methods)
    (hagree : RootTypesAgree ds) {h : Head} {stmt : Stmt} (hstmt : Declares options ds h stmt) :
    stmt.CallTyped (compileBatch options handler ds sources).2.sources := by
  obtain ⟨var, -, hstmt⟩ := hstmt
  cases hsource : h.source? with
  | none =>
      simp only [hsource] at hstmt
      obtain ⟨args, rfl⟩ := hstmt
      exact Stmt.callTyped_of_factoryCall? rfl _
  | some source =>
      simp only [hsource] at hstmt
      obtain ⟨target, root, controller, htarget, hroot, rfl⟩ := hstmt
      rintro call ⟨⟩
      exact callable_of_rootTypesAgree hreplace hok hagree (lastIncluded?_eq_some htarget).1
        (controller?_of_rootObject? hroot) (rootType?_of_rootObject? hroot)

theorem exists_of_forall₂_right {α β : Type} {R : α → β → Prop} {l : List α} {l' : List β}
    (h : List.Forall₂ R l l') {b : β} (hb : b ∈ l') : ∃ a ∈ l, R a b := by
  induction h with
  | nil => cases hb
  | cons hab _ ih =>
      rcases List.mem_cons.mp hb with rfl | hb
      · exact ⟨_, List.mem_cons_self, hab⟩
      · obtain ⟨a, ha, hab⟩ := ih hb
        exact ⟨a, List.mem_cons_of_mem _ ha, hab⟩

/-- After a batch that compiles, where earlier methods are replaced: each
document has its factory method on its controller, and each include
declares what the method that it calls returns, exactly if documents with
one controller have one root type. -/
theorem compileBatch_factories_iff (hreplace : options.replaceExisting = true)
    (hok : (compileBatch options handler ds sources).2.result = .ok methods) :
    let final := (compileBatch options handler ds sources).2.sources
    ((∀ d ∈ ds, d.HasFactory options final)
        ∧ ∀ method ∈ methods, ∀ stmt ∈ method.body, stmt.CallTyped final)
      ↔ RootTypesAgree ds := by
  intro final
  obtain ⟨hall, -⟩ := compileBatch_ok hok
  constructor
  · rintro ⟨hfactory, -⟩ d hd e he hsame
    obtain ⟨controller, -, hc, -⟩ := exists_controller_rootType hall hd
    obtain ⟨file, -, type, hfile, -, -, hcallable⟩ := callable_of_compileBatch hreplace hok hd hc
    rw [rootType?_of_hasFactory (hfactory d hd) hc hfile hcallable,
      rootType?_of_hasFactory (hfactory e he) (hsame ▸ hc) hfile hcallable]
  · refine fun hagree => ⟨fun d hd => ?_, fun method hmethod stmt hstmt => ?_⟩
    · obtain ⟨controller, type, hc, htype⟩ := exists_controller_rootType hall hd
      obtain ⟨file, hfile, hcallable⟩ :=
        callable_of_rootTypesAgree hreplace hok hagree hd hc htype
      exact hasFactory_iff.mpr ⟨controller, hc, type, htype, file, hfile, by simp [hcallable]⟩
    · cases hdecl : stmt.isDeclaration with
      | false =>
          -- only a declaration can call a factory method
          cases stmt with
          | declare => cases hdecl
          | expr => exact Stmt.callTyped_of_factoryCall? rfl _
          | ret => exact Stmt.callTyped_of_factoryCall? rfl _
      | true =>
          obtain ⟨d, -, hmakes, -⟩ := exists_of_forall₂_right hall hmethod
          obtain ⟨h, -, hdeclares⟩ := exists_of_forall₂_right
            (hmakes.declares hall.includable) (List.mem_filter.mpr ⟨hstmt, hdecl⟩)
          exact hdeclares.callTyped hreplace hok hagree

/-- Two documents for one controller, the second with a root of the given
type, and a third that includes the first. -/
def rivals (type : Java.TypeName) : List Document := [
  { name := "Large"
    root := some (.leaf { kind := .declaration (some "com.example.View"), name := "VBox" }) },
  { name := "Small"
    root := some (.leaf { kind := .declaration (some "com.example.View"), name := type }) },
  { name := "Main"
    root := some <| .mk { kind := .declaration (some "com.example.Main"), name := "Pane" } [
      .leaf { kind := .include "Large.fxml", name := "include" }] }]

def rivalSources : Sources := (Sources.declare {} "com.example.View").declare "com.example.Main"

theorem compileBatch_factories_iff_rivals :
    ∃ methods, (compileBatch {} Handler.methodRef (rivals "VBox") rivalSources).2.result
        = .ok methods
      ∧ RootTypesAgree (rivals "VBox")
      ∧ (∀ d ∈ rivals "VBox", d.HasFactory {}
          (compileBatch {} Handler.methodRef (rivals "VBox") rivalSources).2.sources)
      ∧ ∀ method ∈ methods, ∀ stmt ∈ method.body, stmt.CallTyped
          (compileBatch {} Handler.methodRef (rivals "VBox") rivalSources).2.sources := by
  have hagree : RootTypesAgree (rivals "VBox") := by decide
  exact ⟨_, rfl, hagree,
    (@compileBatch_factories_iff {} Handler.methodRef (rivals "VBox") rivalSources _ rfl rfl).mpr hagree⟩

/-- With roots of two types, the batch compiles all the same. The first
document has lost its factory method, and the include of it declares
another type than the method returns. -/
theorem factories_lost_rivals :
    ∃ methods, (compileBatch {} Handler.methodRef (rivals "HBox") rivalSources).2.result
        = .ok methods
      ∧ ¬ (∀ d ∈ rivals "HBox", d.HasFactory {}
          (compileBatch {} Handler.methodRef (rivals "HBox") rivalSources).2.sources)
      ∧ ¬ ∀ method ∈ methods, ∀ stmt ∈ method.body, stmt.CallTyped
          (compileBatch {} Handler.methodRef (rivals "HBox") rivalSources).2.sources :=
  ⟨_, rfl, by decide, by decide⟩

end Document

end FxmlCodegen
