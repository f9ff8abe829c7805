import FxmlCodegen.Proofs.CompileInputs

/-!
# A batch compiles exactly when it is closed

What has to hold of a batch so that all of it compiles can be said of the
documents and the source files alone (`Document.Closed`): each root is an
object whose controller has a source file, each include that is reached
names a document of the batch, wherever that one stands, and each element
that is reached and needs a name has one that is not empty. Elements below
an include are not reached and may be anything.

`Document.compileBatch_ok_iff` proves that this is necessary and enough,
and that the methods of a batch that compiles are those of its documents
in order. The step from a document by itself to the batch is that of
`Document.compileBatch_result`; what is left to see is that, where all
documents can be included, the sources with a target are the keys of the
batch (`Document.exists_target_iff`).
-/

namespace FxmlCodegen

open Java (Method Sources)

namespace Document

variable {options : Options} {handler : Handler}

/-! ## One document -/

/-- The heads code generation reaches: those not below an include. -/
def reached (d : Document) : List Head :=
  match d.root with
  | some root => root.reached
  | none => []

theorem includeSources_eq (d : Document) : d.includeSources = d.reached.filterMap Head.source? := by
  obtain ⟨name, root, instructions⟩ := d
  cases root <;> rfl

/-- Fitness is a matter of the include targets. -/
theorem fit_compiling_iff {scope : Scope} {controller : String} {h : Head} :
    h.Fit (Env.compiling options handler scope controller).scope ↔ h.Fit scope :=
  ⟨fun hfit => ⟨hfit.named, hfit.targeted⟩, fun hfit => ⟨hfit.named, hfit.targeted⟩⟩

/-- A document compiles exactly if its controller has a source file and
all that is reached is fit for code. -/
theorem exists_compile_ok_iff {d : Document} {scope : Scope} {sources : Sources} :
    (∃ method, (d.compile options handler scope sources).result = .ok method)
      ↔ (∃ controller ∈ d.controller?, (sources.get? controller).isSome = true)
        ∧ ∀ h ∈ d.reached, h.Fit scope := by
  rw [compile_result]
  cases hroot : d.rootObject? with
  | none => simp [controller?, hroot]
  | some object =>
      obtain ⟨root, controller⟩ := object
      have hreached : d.reached = root.reached := by rw [reached, (rootObject?_eq_some hroot).1]
      rw [controller?_of_rootObject? hroot, hreached]
      cases controller with
      | none => simp
      | some controller =>
          have hattach : ∀ stmts : List Java.Stmt,
              (∃ method, (if (sources.get? controller).isSome then
                  .ok (factoryMethod options root.head.name stmts)
                else .error (.missingTarget controller d.name) : Except Failure Method)
                  = .ok method)
                ↔ (sources.get? controller).isSome = true := by
            intro stmts
            cases (sources.get? controller).isSome <;> simp
          simp only [exists_bind_eq_ok hattach, body_ok_iff, fit_compiling_iff, Option.mem_def,
            Option.some.injEq, exists_eq_left']
          exact and_comm

/-! ## The batch -/

/-- The batch needs nothing that it does not have. -/
structure Closed (ds : List Document) (sources : Sources) : Prop where
  /-- Each root is an object whose controller has a source file. -/
  rooted : ∀ d ∈ ds, ∃ controller ∈ d.controller?, (sources.get? controller).isSome = true
  /-- Each include not below another names a document of the batch. -/
  included : ∀ d ∈ ds, ∀ source ∈ d.includeSources, ∃ e ∈ ds, e.includeKey = source
  /-- Each declaration, include and property not below an include has a
  name that is not empty, once the documents are named. -/
  named : ∀ d ∈ ds, ∀ h ∈ d.named.reached, h.needsName = true → ∃ x ∈ h.identifier, x ≠ ""

instance (ds : List Document) (sources : Sources) : Decidable (Closed ds sources) :=
  decidable_of_iff (_ ∧ _ ∧ _)
    ⟨fun h => ⟨h.1, h.2.1, h.2.2⟩, fun h => ⟨h.rooted, h.included, h.named⟩⟩

/-- Where all documents can be included, the sources that have a target
are the keys of the batch. -/
theorem exists_target_iff {ds : List Document}
    (hroots : ∀ d ∈ ds, d.Includable)
    {source : String} :
    (∃ controller factory, (identifyAll ds {}).2.controllers.get? source = some controller
        ∧ (identifyAll ds {}).2.factories.get? source = some factory)
      ↔ ∃ d ∈ ds, d.includeKey = source := by
  constructor
  · rintro ⟨controller, -, hc, -⟩
    exact exists_includeKey_of_target hc
  · rintro ⟨d, hd, rfl⟩
    obtain ⟨last, hlast⟩ := exists_lastIncluded? hd
    obtain ⟨root, controller, -, hc, hf⟩ := lastIncluded?_offers hroots hlast {}
    rw [(lastIncluded?_eq_some hlast).2.1] at hc hf
    exact ⟨controller, root.head.name, hc, hf⟩

theorem includable_of_rooted {ds : List Document} {sources : Sources}
    (hrooted : ∀ d ∈ ds, ∃ controller ∈ d.controller?, (sources.get? controller).isSome = true) :
    ∀ d ∈ ds, d.Includable := by
  intro d hd
  obtain ⟨controller, hc, -⟩ := hrooted d hd
  obtain ⟨⟨root, c⟩, hroot, heq⟩ := Option.bind_eq_some_iff.mp hc
  cases heq
  exact ⟨root, controller, hroot⟩

/-- All that is reached in a batch is fit for code exactly if its includes
name documents of the batch and its elements have names. -/
theorem reached_fit_iff {ds : List Document}
    (hroots : ∀ d ∈ ds, d.Includable) :
    (∀ d ∈ ds, ∀ h ∈ d.named.reached, h.Fit (identifyAll ds {}).2)
      ↔ (∀ d ∈ ds, ∀ source ∈ d.includeSources, ∃ e ∈ ds, e.includeKey = source)
        ∧ ∀ d ∈ ds, ∀ h ∈ d.named.reached, h.needsName = true → ∃ x ∈ h.identifier, x ≠ "" := by
  constructor
  · intro hfit
    refine ⟨fun d hd source hsource => ?_, fun d hd h hh => (hfit d hd h hh).named⟩
    rw [← d.includeSources_named, includeSources_eq] at hsource
    obtain ⟨h, hh, hs⟩ := List.mem_filterMap.mp hsource
    exact (exists_target_iff hroots).mp ((hfit d hd h hh).targeted source hs)
  · rintro ⟨hincluded, hnamed⟩ d hd h hh
    refine ⟨hnamed d hd h hh, fun source hs => (exists_target_iff hroots).mpr ?_⟩
    refine hincluded d hd source ?_
    rw [← d.includeSources_named, includeSources_eq]
    exact List.mem_filterMap.mpr ⟨h, hh, hs⟩

/-- A batch compiles exactly if it is closed. And a batch that compiles
gives one method for each document, in order. -/
theorem compileBatch_ok_iff (options : Options) (handler : Handler) (ds : List Document)
    (sources : Sources) :
    ((∃ methods, (compileBatch options handler ds sources).2.result = .ok methods)
        ↔ Closed ds sources)
      ∧ ∀ methods, (compileBatch options handler ds sources).2.result = .ok methods →
        List.Forall₂ (fun d method => d.named.Makes options handler (identifyAll ds {}).2 method)
          ds methods := by
  refine ⟨?_, fun methods hok => (compileBatch_ok hok).1.imp fun _ _ h => h.1⟩
  rw [compileBatch_result, exists_mapM_eq_ok]
  simp only [List.forall_mem_map, exists_compile_ok_iff, controller?_named, forall_and]
  constructor
  · rintro ⟨hrooted, hfit⟩
    obtain ⟨hincluded, hnamed⟩ := (reached_fit_iff (includable_of_rooted hrooted)).mp hfit
    exact ⟨hrooted, hincluded, hnamed⟩
  · rintro ⟨hrooted, hincluded, hnamed⟩
    exact ⟨hrooted, (reached_fit_iff (includable_of_rooted hrooted)).mpr ⟨hincluded, hnamed⟩⟩

/-- A view that includes itself, and two of the name it includes besides.
Below that include stands one that names nothing. -/
def namesakes : List Document := [
  { name := "Main"
    root := some <| .mk { kind := .declaration (some "com.example.Main"), name := "VBox" } [
      .mk { kind := .property .instanceProperty, name := "children" } [
        .mk { kind := .include "Panel.fxml", name := "include", fxId := some "panel" } [
          .leaf { kind := .include "Gone.fxml", name := "include" }],
        .leaf { kind := .declaration none, name := "Label" },
        .leaf { kind := .include "Main.fxml", name := "include" }],
      .mk { kind := .define, name := "fx:define" } [
        .leaf { kind := .include "Panel.fxml", name := "include" }]] },
  { name := "Panel"
    root := some (.leaf { kind := .declaration (some "com.example.Old"), name := "HBox" }) },
  { name := "Panel"
    root := some (.leaf { kind := .declaration (some "com.example.New"), name := "GridPane" }) }]

def namesakeSources : Sources :=
  ((Sources.declare {} "com.example.Main").declare "com.example.Old").declare "com.example.New"

theorem compileBatch_ok_iff_namesakes :
    Closed namesakes namesakeSources
      ∧ ∃ methods, (compileBatch {} Handler.methodRef namesakes namesakeSources).2.result
          = .ok methods
        ∧ List.Forall₂ (fun d method =>
            d.named.Makes {} Handler.methodRef (identifyAll namesakes {}).2 method)
          namesakes methods := by
  have hclosed : Closed namesakes namesakeSources := by decide
  obtain ⟨hiff, horder⟩ := compileBatch_ok_iff {} Handler.methodRef namesakes namesakeSources
  obtain ⟨methods, hok⟩ := hiff.mpr hclosed
  exact ⟨hclosed, methods, hok, horder methods hok⟩

end Document

end FxmlCodegen
