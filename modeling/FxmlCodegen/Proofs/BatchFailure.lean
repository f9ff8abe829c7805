import FxmlCodegen.Proofs.CompileOutcome

/-!
# A failed batch leaves the finished part

A batch is compiled in order until a document fails. What was compiled
before stays; the document that failed leaves no trace. So a batch fails
exactly by running some number of its documents to the end and then
meeting one that fails, and the source files are those the run has left
(`StopsAt`).

The run starts with the scope in which all documents of the batch have
been named, so each document sees the include targets of the whole batch.
-/

namespace FxmlCodegen.Document

open Java (Method Sources)

variable {options : Options} {handler : Handler}

/-- The batch has compiled the documents before position `k`, against the
include targets of all its documents; the one at `k` fails; the source
files are those the first `k` documents have left. -/
def StopsAt (options : Options) (handler : Handler) (ds : List Document) (sources : Sources)
    (failure : Failure) (k : Nat) : Prop :=
  let (named, scope) := identifyAll ds {}
  let final := (compileBatch options handler ds sources).2.sources
  ∃ d methods scope', named[k]? = some d
    ∧ Finishes options handler (named.take k) scope sources methods scope' final
    ∧ scope'.controllers = scope.controllers ∧ scope'.factories = scope.factories
    ∧ (d.compile options handler scope' final).result = .error failure

/-- A batch that fails has stopped at some document. And a document that
fails, in whatever batch and for whatever reason, leaves no trace. -/
theorem compileBatch_error {ds : List Document} {sources : Sources} {failure : Failure}
    (hfail : (compileBatch options handler ds sources).2.result = .error failure) :
    (∃ k, StopsAt options handler ds sources failure k)
      ∧ ∀ (d : Document) (scope : Scope) (sources : Sources) (failure : Failure),
        (d.compile options handler scope sources).result = .error failure →
        (d.compile options handler scope sources).LeavesNoTrace scope sources := by
  refine ⟨?_, fun d scope sources failure => compile_error⟩
  obtain ⟨done, d, rest, methods, scope', sources', hds, run, hd, -, hsources⟩ :=
    compileAll_error hfail
  have hfinal : (compileBatch options handler ds sources).2.sources = sources' :=
    hsources.trans (compile_error hd).sources
  obtain ⟨hcontrollers, hfactories, -⟩ := run.targets
  refine ⟨done.length, d, methods, scope', ?_, ?_, hcontrollers, hfactories, ?_⟩
  · rw [hds, List.getElem?_append_right (Nat.le_refl _), Nat.sub_self, List.getElem?_cons_zero]
  · rw [hds, List.take_left, hfinal]
    exact run
  · rw [hfinal]
    exact hd

/-- Three documents, two of them for one controller; the second includes,
deep inside, a document that is not there. -/
def brokenBatch : List Document := [
  { name := "A", root := some (.leaf { kind := .declaration (some "com.example.A"), name := "VBox" }) },
  { name := "B"
    root := some <| .mk { kind := .declaration (some "com.example.A"), name := "HBox" } [
      .mk { kind := .property .instanceProperty, name := "children" } [
        .leaf { kind := .include "A.fxml", name := "include" },
        .mk { kind := .define, name := "fx:define" } [
          .leaf { kind := .include "Gone.fxml", name := "include" }]]]
    instructions := [.import "javafx.scene.layout" true] },
  { name := "C", root := some (.leaf { kind := .declaration (some "com.example.C"), name := "VBox" }) }]

theorem compileBatch_error_brokenBatch :
    (compileBatch {} Handler.methodRef brokenBatch (Sources.declare {} "com.example.A")).2.result
        = .error (.unresolvedInclude "Gone.fxml")
      ∧ (∃ k, StopsAt {} Handler.methodRef brokenBatch (Sources.declare {} "com.example.A")
        (.unresolvedInclude "Gone.fxml") k)
      ∧ ∀ (d : Document) (scope : Scope) (sources : Sources) (failure : Failure),
        (d.compile {} Handler.methodRef scope sources).result = .error failure →
        (d.compile {} Handler.methodRef scope sources).LeavesNoTrace scope sources :=
  ⟨rfl, compileBatch_error rfl⟩

end FxmlCodegen.Document
