import FxmlCodegen.Proofs.BatchSuccess
import FxmlCodegen.Proofs.IncludeTargets

/-!
# What compiling depends on

The result for a document depends on the document, the targets of the
includes it reaches, and whether there is a source file for its
controller (`Document.SameInputs`). The names that are taken, the
controller that is active, other targets and what the files hold do not
matter, neither for the result nor for what is done to the files
(`Document.compile_noninterference`).

The documents of a batch therefore do not disturb each other. Their
results are those each would have by itself (`Document.compileAll_result`),
up to the first failure, and the source files are left as the updates of
the documents before that failure make them (`Document.finished`,
`Document.compileAll_sources`).
-/

namespace FxmlCodegen

open Java (Method Sources)

/-- A type has a file in both or in neither. -/
def Java.Sources.SameTypes (s s' : Sources) : Prop :=
  ∀ type, (s.get? type).isSome = (s'.get? type).isSome

namespace Document

variable {options : Options} {handler : Handler} {scope scope' : Scope} {sources sources' : Sources}
  {d : Document} {method : Method}

/-! ## One document -/

theorem includeSources_of_rootObject? {root : Element} {controller : Option String}
    (hroot : d.rootObject? = some (root, controller)) : d.includeSources = root.includeSources := by
  rw [includeSources, (rootObject?_eq_some hroot).1]

/-- What compiling the document can see of a scope and of source files is
the same in both. -/
structure SameInputs (d : Document) (scope scope' : Scope) (sources sources' : Sources) : Prop where
  targets : scope.SameTargets scope' d.includeSources
  file : ∀ controller, d.controller? = some controller →
    (sources.get? controller).isSome = (sources'.get? controller).isSome

theorem compile_result_congr (hsame : d.SameInputs scope scope' sources sources') :
    (d.compile options handler scope sources).result
      = (d.compile options handler scope' sources').result := by
  rw [compile_result, compile_result]
  split
  · rfl
  · rfl
  · rename_i root controller hroot
    have htargets := hsame.targets
    rw [includeSources_of_rootObject? hroot] at htargets
    rw [body_congr options handler htargets, hsame.file controller (controller?_of_rootObject? hroot)]

theorem compile_result_eq_ok : (d.compile options handler scope sources).result = .ok method
    ↔ d.Makes options handler scope method ∧ (sources.get? d.controllerText).isSome = true :=
  ⟨makes_of_compile, fun ⟨hmakes, hfile⟩ => by rw [compile_of_makes hmakes hfile]⟩

theorem Makes.of_sameTargets (hmakes : d.Makes options handler scope method)
    (hsame : scope.SameTargets scope' d.includeSources) :
    d.Makes options handler scope' method := by
  obtain ⟨root, controller, stmts, hroot, hbody, hmethod⟩ := hmakes
  rw [includeSources_of_rootObject? hroot] at hsame
  rw [body_congr options handler hsame] at hbody
  exact ⟨root, controller, stmts, hroot, hbody, hmethod⟩

theorem Makes.targets (hmakes : d.Makes options handler scope method) :
    ∀ source ∈ d.includeSources,
      ∃ controller, scope.controllers.get? source = some controller := by
  obtain ⟨root, controller, stmts, hroot, hbody, -⟩ := hmakes
  rw [includeSources_of_rootObject? hroot]
  exact targets_of_body hbody

/-- The files are changed by the method alone. -/
theorem compile_sources :
    (d.compile options handler scope sources).sources = sources.applyAll
      (((d.compile options handler scope sources).result.toOption.map (d.update options)).toList) := by
  cases hresult : (d.compile options handler scope sources).result with
  | error failure => exact (compile_error hresult).sources
  | ok method =>
      obtain ⟨hmakes, hfile⟩ := compile_result_eq_ok.mp hresult
      rw [compile_of_makes hmakes hfile]
      rfl

/-- Where the inputs are the same, so is the result, and the same is done
to the source files. -/
theorem compile_noninterference (hsame : d.SameInputs scope scope' sources sources') :
    (d.compile options handler scope sources).result
        = (d.compile options handler scope' sources').result
      ∧ ∃ updates : List Sources.Update,
        (d.compile options handler scope sources).sources = sources.applyAll updates
          ∧ (d.compile options handler scope' sources').sources = sources'.applyAll updates := by
  have hresult : (d.compile options handler scope sources).result
      = (d.compile options handler scope' sources').result := compile_result_congr hsame
  refine ⟨hresult, _, compile_sources, ?_⟩
  rw [hresult]
  exact compile_sources

/-- A view with a resource, an include, and an include below that one. -/
def resourceView : Document where
  name := "Main"
  root := some <| .mk
    { kind := .declaration (some "com.example.Main"), name := "VBox", identifier := some "vBox" } [
    .leaf { kind := .declaration none, name := "Image", identifier := some "image"
            attributes := [⟨"url", "@save.png", .instanceProperty⟩] },
    .mk { kind := .include "Child.fxml", name := "include", identifier := some "child" } [
      .leaf { kind := .include "Lost.fxml", name := "include" }]]

/-- A scope left by other documents: variables are taken, their controller
is active, and there are more targets than the view asks for. -/
def crowdedScope : Scope where
  taken := ["vBox", "child"]
  controllers :=
    (Table.empty.put "Child.fxml" "com.example.Child").put "Lost.fxml" "com.example.Lost"
  factories := (Table.empty.put "Lost.fxml" "HBox").put "Child.fxml" "Pane"
  active := some "com.example.Other"

/-- A scope with the one target the view asks for. -/
def bareScope : Scope where
  controllers := Table.empty.put "Child.fxml" "com.example.Child"
  factories := Table.empty.put "Child.fxml" "Pane"

theorem compile_noninterference_resourceView :
    resourceView.SameInputs crowdedScope bareScope
        ((Sources.declare {} "com.example.Main").declare "com.example.Other")
        (Sources.declare {} "com.example.Main")
      ∧ (resourceView.compile {} Handler.methodRef bareScope
          (Sources.declare {} "com.example.Main")).result.isOk = true
      ∧ (resourceView.compile {} Handler.methodRef crowdedScope
          ((Sources.declare {} "com.example.Main").declare "com.example.Other")).result
        = (resourceView.compile {} Handler.methodRef bareScope
          (Sources.declare {} "com.example.Main")).result := by
  have hsame : resourceView.SameInputs crowdedScope bareScope
      ((Sources.declare {} "com.example.Main").declare "com.example.Other")
      (Sources.declare {} "com.example.Main") := by
    constructor
    · unfold Scope.SameTargets
      decide +kernel
    · rintro controller ⟨⟩
      decide +kernel
  exact ⟨hsame, by decide +kernel, (compile_noninterference hsame).1⟩

/-- Naming does the same to a document whether or not it has been named
before. -/
theorem identify_again {d' : Document} (hd' : d' = d ∨ d' = d.named) (s : Scope) :
    (d'.identify s).1 = d.named
      ∧ ∀ sources, (d.identify s).2.SameTargets (d'.identify s).2 sources := by
  rcases hd' with rfl | rfl
  · exact ⟨d'.identify_fst s, fun _ _ _ => ⟨rfl, rfl⟩⟩
  · refine ⟨(d.named.identify_fst s).trans d.named_named, fun _ _ _ => ?_⟩
    rw [(d.named.identify_targets s).1, (d.named.identify_targets s).2, d.register_named,
      (d.identify_targets s).1, (d.identify_targets s).2]
    exact ⟨rfl, rfl⟩

/-! ## Documents in a row -/

/-- The documents before the first that fails, each with its method. -/
def finished (options : Options) (handler : Handler) (scope : Scope) (sources : Sources) :
    List Document → List (Document × Method)
  | [] => []
  | d :: ds =>
    match (d.compile options handler scope sources).result with
    | .ok method => (d, method) :: finished options handler scope sources ds
    | .error _ => []

/-- The updates that attach these methods. -/
def updates (options : Options) (done : List (Document × Method)) : List Sources.Update :=
  done.map fun p => p.1.update options p.2

theorem finished_congr :
    ∀ {ds : List Document}, (∀ d ∈ ds, scope.SameTargets scope' d.includeSources) →
      sources.SameTypes sources' →
      finished options handler scope sources ds = finished options handler scope' sources' ds
  | [], _, _ => rfl
  | d :: ds, hsame, htypes => by
      rw [finished, finished, finished_congr (fun e he => hsame e (List.mem_cons_of_mem d he)) htypes,
        compile_result_congr ⟨hsame d List.mem_cons_self, fun _ _ => htypes _⟩]

/-- Compiling documents in a row gives the results each would have by
itself. -/
theorem compileAll_result : ∀ (ds : List Document) (scope : Scope) (sources : Sources),
    (compileAll options handler ds scope sources).result
      = ds.mapM fun d => (d.compile options handler scope sources).result
  | [], _, _ => rfl
  | d :: ds, scope, sources => by
      rw [compileAll, List.mapM_cons]
      cases hfirst : (d.compile options handler scope sources).result with
      | error failure => rfl
      | ok method =>
          obtain ⟨hmakes, hfile⟩ := compile_result_eq_ok.mp hfirst
          -- The scope is idle now and a file has changed: neither shows.
          have hrest : (ds.mapM fun e => (e.compile options handler scope.idle
                (sources.apply (d.update options method))).result)
              = ds.mapM fun e => (e.compile options handler scope sources).result := by
            congr 1
            funext e
            exact compile_result_congr ⟨fun _ _ => ⟨rfl, rfl⟩,
              fun controller _ => sources.isSome_get?_apply _ controller⟩
          simp only [compile_of_makes hmakes hfile]
          rw [compileAll_result ds, hrest]
          cases ds.mapM fun e => (e.compile options handler scope sources).result with
          | error failure => rfl
          | ok methods => rfl

theorem compileAll_sources : ∀ (ds : List Document) (scope : Scope) (sources : Sources),
    (compileAll options handler ds scope sources).sources
      = sources.applyAll (updates options (finished options handler scope sources ds))
  | [], _, _ => rfl
  | d :: ds, scope, sources => by
      rw [compileAll, finished]
      cases hfirst : (d.compile options handler scope sources).result with
      | error failure => exact (compile_error hfirst).sources
      | ok method =>
          obtain ⟨hmakes, hfile⟩ := compile_result_eq_ok.mp hfirst
          have hrest : finished options handler scope.idle
                (sources.apply (d.update options method)) ds
              = finished options handler scope sources ds :=
            finished_congr (fun _ _ _ _ => ⟨rfl, rfl⟩) fun type =>
              sources.isSome_get?_apply _ type
          have hsources := compileAll_sources ds scope.idle (sources.apply (d.update options method))
          rw [hrest] at hsources
          simp only [compile_of_makes hmakes hfile]
          split <;> exact hsources

/-! ## Batches -/

theorem compileBatch_fst (ds : List Document) (sources : Sources) :
    (compileBatch options handler ds sources).1 = ds.map named :=
  identifyAll_fst ds {}

theorem compileBatch_result (ds : List Document) (sources : Sources) :
    (compileBatch options handler ds sources).2.result
      = (ds.map named).mapM fun d =>
        (d.compile options handler (identifyAll ds {}).2 sources).result := by
  rw [← identifyAll_fst ds {}]
  exact compileAll_result _ _ _

theorem compileBatch_sources (ds : List Document) (sources : Sources) :
    (compileBatch options handler ds sources).2.sources
      = sources.applyAll (updates options
        (finished options handler (identifyAll ds {}).2 sources (ds.map named))) := by
  rw [← identifyAll_fst ds {}]
  exact compileAll_sources _ _ _

end Document

end FxmlCodegen
