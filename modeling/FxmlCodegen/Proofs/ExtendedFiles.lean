import FxmlCodegen.Proofs.AttachedMethods

/-!
# Source files are only extended

Documents are compiled one after the other, by callers who give each the
scope and handler they like, and some fail (`Request`). However many there
are, a source file that no success was for is as it was, none comes or
goes, and what was written by hand in the others is all there
(`Request.filesAfter_extends`): package and type, the methods of another
name or with parameters, the imports. What is added is the method of the
last success, behind the others, and imports that documents ask for
(`Extends`).

The requests come to a list of updates, those of the successes
(`Request.filesAfter_eq`), so this is the file after all methods for it
have been attached (`attachAll_extends`).
-/

namespace FxmlCodegen

open Java (Import Method SourceFile Sources)

variable {options : Options}

/-! ## One file -/

/-- What an instruction asks for is no static import, and not one of the
package that is there anyway. -/
theorem Instruction.toImport?_eq_some {i : Instruction} {x : Import}
    (hx : i.toImport? options = some x) :
    i = .import x.name x.onDemand ∧ x.isStatic = false ∧ x.name ≠ options.implicitPackage := by
  cases i with
  | language name => cases hx
  | «import» path wholePackage =>
      rw [toImport?] at hx
      split at hx
      · cases hx
      · rename_i hne
        cases hx
        exact ⟨rfl, rfl, hne⟩

/-- Imports are added behind those that are there, each once. -/
theorem exists_addImports_eq_append (options : Options) :
    ∀ (is : List Instruction) (imports : List Import),
      ∃ added, addImports options is imports = imports ++ added
        ∧ (∀ x ∈ added, ∃ i ∈ is, i.toImport? options = some x)
        ∧ (imports.Nodup → (imports ++ added).Nodup)
  | [], imports => ⟨[], (List.append_nil _).symm, fun x hx => (List.not_mem_nil hx).elim,
      fun h => by rwa [List.append_nil]⟩
  | i :: is, imports => by
      rw [addImports_cons]
      rcases addImports_singleton_cases options i imports with ⟨heq, -⟩ | ⟨x, hx, hnew, heq⟩
      · obtain ⟨added, hadded, hfrom, hnodup⟩ := exists_addImports_eq_append options is imports
        refine ⟨added, by rw [heq, hadded], fun y hy => ?_, hnodup⟩
        obtain ⟨j, hj, hjy⟩ := hfrom y hy
        exact ⟨j, List.mem_cons_of_mem i hj, hjy⟩
      · obtain ⟨added, hadded, hfrom, hnodup⟩ :=
          exists_addImports_eq_append options is (imports ++ [x])
        rw [List.append_assoc, List.singleton_append] at hadded hnodup
        refine ⟨x :: added, by rw [heq, hadded], fun y hy => ?_, fun himports => hnodup ?_⟩
        · rcases List.mem_cons.mp hy with rfl | hy
          · exact ⟨i, List.mem_cons_self, hx⟩
          · obtain ⟨j, hj, hjy⟩ := hfrom y hy
            exact ⟨j, List.mem_cons_of_mem i hj, hjy⟩
        · refine List.nodup_append.mpr ⟨himports, List.nodup_singleton x, fun y hy z hz => ?_⟩
          rw [List.mem_singleton.mp hz]
          exact fun hyx => hnew (hyx ▸ hy)

/-- The same for a list that may be absent. -/
theorem exists_importsAfter_eq_append (options : Options) (is : List Instruction)
    (imports : Option (List Import)) :
    ∃ added, (importsAfter options is imports).getD [] = imports.getD [] ++ added
      ∧ (∀ x ∈ added, ∃ i ∈ is, i.toImport? options = some x)
      ∧ ((imports.getD []).Nodup → (imports.getD [] ++ added).Nodup)
      ∧ (imports.isSome = true → (importsAfter options is imports).isSome = true) := by
  unfold importsAfter
  split
  · exact ⟨[], (List.append_nil _).symm, fun x hx => (List.not_mem_nil hx).elim,
      fun h => by rwa [List.append_nil], id⟩
  · obtain ⟨added, hadded, hfrom, hnodup⟩ :=
      exists_addImports_eq_append options is (imports.getD [])
    exact ⟨added, hadded, hfrom, hnodup, fun _ => rfl⟩

/-- `after` is the file `before` with the methods of the documents `done`,
in this order, attached to it. -/
structure Extends (options : Options) (done : List (Document × Method))
    (before after : SourceFile) : Prop where
  package : after.package = before.package
  typeName : after.typeName = before.typeName
  /-- Methods of another name or with parameters are kept in their order. -/
  others : after.methods.filter (fun m => !m.isFactory options)
    = before.methods.filter (fun m => !m.isFactory options)
  /-- The only other method is the one attached last, and it is the last. -/
  factory : ∃ d method, done.getLast? = some (d, method)
    ∧ after.methods.filter (·.isFactory options) = [method]
    ∧ after.methods.getLast? = some method
  /-- The imports there were come first. What follows is asked for by one of
  the documents, is not static, and is not the implicit package. -/
  imports : ∃ added, after.imports.getD [] = before.imports.getD [] ++ added
    ∧ ∀ x ∈ added, x.isStatic = false ∧ x.name ≠ options.implicitPackage
      ∧ ∃ p ∈ done, .import x.name x.onDemand ∈ p.1.instructions
  /-- A list of imports that is there, even if empty, stays. -/
  importsStay : before.imports.isSome = true → after.imports.isSome = true
  importsNodup : (before.imports.getD []).Nodup → (after.imports.getD []).Nodup

theorem attachAll_extends (hreplace : options.replaceExisting = true)
    {done : List (Document × Method)} (hfactory : ∀ p ∈ done, p.2.isFactory options = true)
    (hsome : done ≠ []) (file : SourceFile) :
    Extends options done file (attachAll options done file) := by
  obtain ⟨⟨d, method⟩, hlast⟩ : ∃ p, done.getLast? = some p :=
    ⟨_, List.getLast?_eq_some_getLast hsome⟩
  have hmethod : method.isFactory options = true :=
    hfactory (d, method) (List.mem_of_getLast? hlast)
  obtain ⟨added, hadded, hfrom, hnodup, hstay⟩ :=
    exists_importsAfter_eq_append options (done.flatMap (·.1.instructions)) file.imports
  rw [attachAll_eq hreplace hfactory, hlast]
  refine ⟨rfl, rfl, ?_, ⟨d, method, hlast, ?_, ?_⟩, ⟨added, hadded, fun x hx => ?_⟩, hstay,
    fun h => ?_⟩
  · simp [methodsAfter, List.filter_filter, hmethod]
  · simp [methodsAfter, List.filter_filter, hmethod]
  · exact List.getLast?_concat
  · obtain ⟨i, hi, hix⟩ := hfrom x hx
    obtain ⟨rfl, hstatic, hname⟩ := Instruction.toImport?_eq_some hix
    obtain ⟨p, hp, hin⟩ := List.mem_flatMap.mp hi
    exact ⟨hstatic, hname, p, hp, hin⟩
  · show ((importsAfter options _ file.imports).getD []).Nodup
    rw [hadded]
    exact hnodup h

/-! ## Requests in a row -/

/-- A document to compile, with the scope and handler to do it in. -/
structure Request where
  document : Document
  scope : Scope := {}
  handler : Handler := Handler.methodRef

namespace Request

def outcome (options : Options) (r : Request) (sources : Sources) : Outcome Method :=
  r.document.compile options r.handler r.scope sources

/-- The source files after the requests, each answered over those that the
one before has left. -/
def filesAfter (options : Options) : List Request → Sources → Sources
  | [], sources => sources
  | r :: rs, sources => filesAfter options rs (r.outcome options sources).sources

/-- The documents that compiled, in order, each with its method. -/
def compiled (options : Options) : List Request → Sources → List (Document × Method)
  | [], _ => []
  | r :: rs, sources =>
    let outcome := r.outcome options sources
    (outcome.result.toOption.map (r.document, ·)).toList ++ compiled options rs outcome.sources

/-- Requests come to the updates of those that succeed. -/
theorem filesAfter_eq : ∀ (rs : List Request) (sources : Sources),
    filesAfter options rs sources
      = sources.applyAll (Document.updates options (compiled options rs sources))
  | [], _ => rfl
  | r :: rs, sources => by
      have hfirst : (r.outcome options sources).sources = sources.applyAll
          (Document.updates options
            ((r.outcome options sources).result.toOption.map (r.document, ·)).toList) := by
        rw [outcome, Document.compile_sources]
        cases (r.document.compile options r.handler r.scope sources).result <;> rfl
      have hboth : Document.updates options (compiled options (r :: rs) sources)
          = Document.updates options
              ((r.outcome options sources).result.toOption.map (r.document, ·)).toList
            ++ Document.updates options
              (compiled options rs (r.outcome options sources).sources) := List.map_append
      rw [filesAfter, filesAfter_eq rs, hboth, Sources.applyAll, Sources.applyAll,
        List.foldl_append]
      exact congrArg (fun files => List.foldl Sources.apply files _) hfirst

/-- A success is a factory method for a controller that has had a file from
the start. -/
theorem of_mem_compiled : ∀ {rs : List Request} {sources : Sources} {p : Document × Method},
    p ∈ compiled options rs sources → p.2.isFactory options = true
      ∧ ∃ controller, p.1.controller? = some controller
        ∧ (sources.get? controller).isSome = true
  | r :: rs, sources, p, hp => by
      rw [compiled] at hp
      rcases List.mem_append.mp hp with hp | hp
      · obtain ⟨method, hmethod, rfl⟩ := Option.map_eq_some_iff.mp (Option.mem_toList.mp hp)
        have hok : (r.outcome options sources).result = .ok method := by
          cases hresult : (r.outcome options sources).result with
          | error failure => simp [hresult, Except.toOption] at hmethod
          | ok made =>
              rw [hresult] at hmethod
              exact congrArg Except.ok (Option.some.inj hmethod)
        obtain ⟨hmakes, hfile⟩ := Document.makes_of_compile hok
        have hfactory := hmakes.isFactory
        obtain ⟨root, controller, stmts, hroot, -, -⟩ := hmakes
        have hc := Document.controller?_of_rootObject? hroot
        rw [Document.controllerText, hc] at hfile
        exact ⟨hfactory, controller, hc, hfile⟩
      · obtain ⟨hfactory, controller, hc, hfile⟩ := of_mem_compiled hp
        rw [outcome, Document.compile_sources, Sources.isSome_get?_applyAll] at hfile
        exact ⟨hfactory, controller, hc, hfile⟩

theorem filter_controllerText_compiled (rs : List Request) (sources : Sources) (type : String) :
    (compiled options rs sources).filter (·.1.controllerText = type)
      = (compiled options rs sources).filter (·.1.controller? = some type) := by
  refine List.filter_congr fun p hp => ?_
  obtain ⟨-, controller, hc, -⟩ := of_mem_compiled hp
  simp [Document.controllerText, hc]

/-- Where earlier methods are replaced, any requests leave the files in
their order, those without success for them untouched, and the others
extended by the successes for them. -/
theorem filesAfter_extends (hreplace : options.replaceExisting = true) (rs : List Request)
    (sources : Sources) :
    (filesAfter options rs sources).keys = sources.keys
      ∧ ∀ type : String,
        let done := (compiled options rs sources).filter (·.1.controller? = some type)
        (done = [] → (filesAfter options rs sources).get? type = sources.get? type)
          ∧ (done ≠ [] → ∃ before after, sources.get? type = some before
            ∧ (filesAfter options rs sources).get? type = some after
            ∧ Extends options done before after) := by
  rw [filesAfter_eq]
  refine ⟨Sources.keys_applyAll _ sources, fun type => ?_⟩
  intro done
  have hget : (sources.applyAll (Document.updates options (compiled options rs sources))).get? type
      = (sources.get? type).map (attachAll options done) := by
    rw [Sources.get?_applyAll]
    congr 1
    funext file
    rw [Document.changes_updates, filter_controllerText_compiled]
  refine ⟨fun hnone => ?_, fun hsome => ?_⟩
  · rw [hget, hnone]
    exact congrFun Option.map_id _
  · obtain ⟨p, hp⟩ := List.exists_mem_of_ne_nil done hsome
    obtain ⟨hp, htype⟩ := List.mem_filter.mp hp
    obtain ⟨-, controller, hc, hfile⟩ := of_mem_compiled hp
    obtain rfl : controller = type := by simpa [hc] using htype
    obtain ⟨file, hfile⟩ := Option.isSome_iff_exists.mp hfile
    refine ⟨file, attachAll options done file, hfile, by rw [hget, hfile]; rfl, ?_⟩
    exact attachAll_extends hreplace
      (fun q hq => (of_mem_compiled (List.mem_of_mem_filter hq)).1) hsome file

/-- A class written by hand, with a static import, an overload of the
factory method and an older one. -/
def handWritten : SourceFile where
  package := some "com.example"
  imports := some [
    ⟨"java.util.Objects.requireNonNull", true, false⟩, ⟨"javafx.scene.control", false, true⟩]
  typeName := "Main"
  methods := [
    { modifier := .public, returnType := "Pane", name := "create", body := [] },
    { modifier := .private, returnType := "Pane", name := "create",
      parameters := [⟨"String", "title"⟩], body := [] },
    { modifier := .protected, returnType := "void", name := "initialize", body := [] }]

/-- A request for the hand-written class. -/
def forMain (name type : String) (children : List Element) (instructions : List Instruction) :
    Request where
  document :=
    { name
      root := some (.mk
        { kind := .declaration (some "com.example.Main"), name := type, identifier := some "root" }
        children)
      instructions }

/-- Two requests that succeed, one before and one after two that fail: an
include that leads nowhere, and a controller without a file. -/
def mixedRequests : List Request := [
  forMain "Large" "VBox" [] [.import "javafx.scene.layout" true, .import "java.lang" true],
  forMain "Broken" "Pane" [.leaf { kind := .include "Gone.fxml", name := "include" }]
    [.import "javafx.scene.media" true],
  { document :=
      { name := "Stray"
        root := some <| .leaf
          { kind := .declaration (some "com.example.Stray"), name := "Pane"
            identifier := some "pane" } }
    scope := { taken := ["pane"] } },
  { forMain "Small" "HBox" []
      [.import "javafx.scene.control" true, .import "javafx.scene.layout" true]
    with handler := fun name => .name name }]

def handWrittenSources : Sources :=
  (Sources.declare {} "com.example.Aside").insert handWritten

theorem filesAfter_extends_mixedRequests :
    let final := filesAfter {} mixedRequests handWrittenSources
    let done := (compiled {} mixedRequests handWrittenSources).filter
      (·.1.controller? = some "com.example.Main")
    done.map (·.1.name) = ["Large", "Small"]
      ∧ (final.get? "com.example.Main").map (fun file =>
          (file.imports, file.methods.map fun m => (m.name, m.returnType, m.parameters.length)))
        = some (some [⟨"java.util.Objects.requireNonNull", true, false⟩,
            ⟨"javafx.scene.control", false, true⟩, ⟨"javafx.scene.layout", false, true⟩],
          [("create", "Pane", 1), ("initialize", "void", 0), ("create", "HBox", 0)])
      ∧ final.keys = ["com.example.Aside", "com.example.Main"]
      ∧ final.get? "com.example.Aside" = handWrittenSources.get? "com.example.Aside"
      ∧ ∃ before after, handWrittenSources.get? "com.example.Main" = some before
        ∧ final.get? "com.example.Main" = some after ∧ Extends {} done before after := by
  intro final done
  obtain ⟨hkeys, hfiles⟩ :=
    @filesAfter_extends {} rfl mixedRequests handWrittenSources
  have hdone : done.map (·.1.name) = ["Large", "Small"] := by decide +kernel
  have hsome : done ≠ [] := fun hnil => by
    rw [hnil] at hdone
    cases hdone
  have hnone : (compiled {} mixedRequests handWrittenSources).filter
      (·.1.controller? = some "com.example.Aside") = [] := by
    refine List.eq_nil_of_length_eq_zero ?_
    decide +kernel
  exact ⟨hdone, by decide +kernel, hkeys.trans (by decide +kernel), (hfiles _).1 hnone,
    (hfiles _).2 hsome⟩

end Request

end FxmlCodegen
