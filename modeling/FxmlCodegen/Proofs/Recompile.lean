import FxmlCodegen.Proofs.AttachedMethods

/-!
# Compiling again changes nothing

A batch that has been compiled, with success or not, can be compiled once
more: the documents with the names they have got by then, over the source
files as they have been left. Where earlier methods are replaced, the
second run gives the same result, and leaves the documents and every
source file exactly as the first has left them
(`Document.compileBatch_compileBatch`).

Three facts meet. Named documents keep their names and are the same
include targets. The result depends on the files only through which types
have one, and no run changes that. And the updates of a run, which are
those before its first failure, are settled after once, also where several
documents write to one file: its imports are all there, and of the methods
the last one shows in both runs.
-/

namespace FxmlCodegen.Document

open Java (Method Sources)

variable {options : Options} {handler : Handler}

/-- The updates of a run have nothing left to do. -/
theorem applyAll_finished_again (hreplace : options.replaceExisting = true) (scope : Scope)
    (sources files : Sources) (ds : List Document) :
    let us := updates options (finished options handler scope sources ds)
    (files.applyAll us).applyAll us = files.applyAll us := by
  refine Sources.applyAll_applyAll (fun type file => ?_) files
  simp only [changes_updates]
  refine attachAll_attachAll hreplace (fun p hp => ?_) file
  exact isFactory_of_mem_finished p (List.mem_of_mem_filter hp)

/-- Compiling a batch again, where earlier methods are replaced: the same
result, the same documents, the same source files. -/
theorem compileBatch_compileBatch (hreplace : options.replaceExisting = true) (handler : Handler)
    (ds : List Document) (sources : Sources) :
    let first := compileBatch options handler ds sources
    let second := compileBatch options handler first.1 first.2.sources
    second.2.result = first.2.result ∧ second.1 = first.1
      ∧ second.2.sources = first.2.sources := by
  intro first second
  have hdocuments : first.1 = ds.map named := compileBatch_fst ds sources
  have hfiles : first.2.sources = _ := compileBatch_sources ds sources
  obtain ⟨hcontrollers, hfactories⟩ :=
    identifyAll_named_targets ds (rfl : ({} : Scope).controllers = _) rfl
  have hsame : ∀ keys, (identifyAll (ds.map named) {}).2.SameTargets (identifyAll ds {}).2 keys :=
    fun keys key _ => by rw [hcontrollers, hfactories]; exact ⟨rfl, rfl⟩
  have htypes : first.2.sources.SameTypes sources := by
    rw [hfiles]
    exact fun type => Sources.isSome_get?_applyAll _ sources type
  refine ⟨?_, ?_, ?_⟩
  · show (compileBatch options handler first.1 first.2.sources).2.result = _
    rw [hdocuments, compileBatch_result, compileBatch_result, map_named_named]
    congr 1
    funext d
    exact compile_result_congr ⟨hsame _, fun _ _ => htypes _⟩
  · show (compileBatch options handler first.1 first.2.sources).1 = _
    rw [hdocuments, compileBatch_fst, map_named_named]
  · show (compileBatch options handler first.1 first.2.sources).2.sources = _
    rw [hdocuments, compileBatch_sources, map_named_named, finished_congr (fun d _ => hsame _) htypes,
      hfiles]
    exact applyAll_finished_again hreplace _ sources sources _

/-- Two documents for one controller, one of them with a name already and
both with an import of the same package, before one that includes a
document that is not there. -/
def sharedController : List Document := [
  { name := "Large"
    root := some <| .mk { kind := .declaration (some "com.example.Main"), name := "VBox" } [
      .mk { kind := .property .instanceProperty, name := "children" } [
        .leaf { kind := .declaration none, name := "Label", identifier := some "title" }]]
    instructions := [.import "javafx.scene.layout" true, .import "java.lang" true] },
  { name := "Small"
    root := some (.leaf { kind := .declaration (some "com.example.Main"), name := "HBox" })
    instructions := [.import "javafx.scene.control" true, .import "javafx.scene.layout" true] },
  { name := "Broken"
    root := some <| .mk { kind := .declaration (some "com.example.Main"), name := "Pane" } [
      .leaf { kind := .include "Gone.fxml", name := "include" }] }]

theorem compileBatch_compileBatch_sharedController :
    let first := compileBatch {} Handler.methodRef sharedController
      (Sources.declare {} "com.example.Main")
    let second := compileBatch {} Handler.methodRef first.1 first.2.sources
    first.2.result = .error (.unresolvedInclude "Gone.fxml")
      ∧ (first.2.sources.get? "com.example.Main").map (fun file =>
          (file.imports, file.methods.map (·.returnType)))
        = some (some [⟨"javafx.scene.layout", false, true⟩, ⟨"javafx.scene.control", false, true⟩],
          ["HBox"])
      ∧ second.2.result = first.2.result ∧ second.1 = first.1
      ∧ second.2.sources = first.2.sources :=
  ⟨rfl, by decide, compileBatch_compileBatch rfl Handler.methodRef sharedController _⟩

end FxmlCodegen.Document
