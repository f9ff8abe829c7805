import FxmlCodegen.Proofs.CompileInputs

/-!
# The order of naming and compiling

A batch names all its documents and then compiles them in order. A caller
who holds the scope may do otherwise: name and compile documents in any
order, and name some more than once. `Session` is such a caller, one job
after the other over one scope and one set of source files.

If each document is compiled once, after it and the documents it includes
have been named (`Session.Admissible`), the order does not show: each
document gets the method that the batch gives it, and the source files end
as the batch leaves them (`Session.run_eq_batch`). Names and controllers
of the documents have to differ, so that no two documents are targets of
one key and no two methods go to one file.

The invariant is `Session.Progress`: after any part of the jobs, documents
are as they came or named, those that have been named are offered by the
scope, and the results and files are those of the documents compiled so
far. `Progress.identify` and `Progress.compile` are its two steps.
-/

namespace FxmlCodegen

open Java (Method Sources)

/-- One call, on the document at a position. -/
inductive Job where
  | identify (i : Nat)
  | compile (i : Nat)
  deriving DecidableEq

/-- What a caller holds between calls, with the results so far. -/
structure Session where
  documents : List Document
  scope : Scope := {}
  sources : Sources
  results : List (Nat × Except Failure Method) := []

namespace Session

/-- Does one job. There is nothing to do at a position without document. -/
def step (options : Options) (handler : Handler) (s : Session) : Job → Session
  | .identify i =>
    match s.documents[i]? with
    | some d =>
      let (d, scope) := d.identify s.scope
      { s with documents := s.documents.set i d, scope }
    | none => s
  | .compile i =>
    match s.documents[i]? with
    | some d =>
      let outcome := d.compile options handler s.scope s.sources
      { s with
        scope := outcome.scope
        sources := outcome.sources
        results := s.results ++ [(i, outcome.result)] }
    | none => s

def run (options : Options) (handler : Handler) (jobs : List Job) (s : Session) : Session :=
  jobs.foldl (step options handler) s

/-- The positions that are compiled, in order. -/
def compiled (jobs : List Job) : List Nat :=
  jobs.filterMap fun
    | .compile i => some i
    | .identify _ => none

/-- After these jobs the document at a position can be compiled: it and
the documents it includes have been named. -/
def Ready (ds : List Document) (done : List Job) (i : Nat) : Prop :=
  .identify i ∈ done ∧ ∀ j < ds.length, ∀ d ∈ ds[i]?, ∀ e ∈ ds[j]?,
    e.includeKey ∈ d.includeSources → .identify j ∈ done

instance (ds : List Document) (done : List Job) (i : Nat) : Decidable (Ready ds done i) :=
  inferInstanceAs (Decidable (_ ∧ ∀ j < ds.length, ∀ d ∈ ds[i]?, ∀ e ∈ ds[j]?, _ → _))

/-- Each document is compiled once, and when it is, it is ready. -/
structure Admissible (ds : List Document) (jobs : List Job) : Prop where
  once : (compiled jobs).Perm (List.range ds.length)
  ready : ∀ k < jobs.length, ∀ i < ds.length, jobs[k]? = some (.compile i) →
    Ready ds (jobs.take k) i

instance (ds : List Document) (jobs : List Job) : Decidable (Admissible ds jobs) :=
  decidable_of_iff (_ ∧ _) ⟨fun h => ⟨h.1, h.2⟩, fun h => ⟨h.once, h.ready⟩⟩

/-! ## Positions -/

theorem Admissible.lt_length {ds : List Document} {done rest : List Job} {i : Nat}
    (hjobs : Admissible ds (done ++ .compile i :: rest)) : i < ds.length := by
  have hmem : i ∈ compiled (done ++ .compile i :: rest) := by
    simp [compiled]
  exact List.mem_range.mp (hjobs.once.subset hmem)

theorem Admissible.ready_at {ds : List Document} {done rest : List Job} {i : Nat}
    (hjobs : Admissible ds (done ++ .compile i :: rest)) : Ready ds done i := by
  have hready := hjobs.ready done.length (by simp) i hjobs.lt_length (by simp)
  rwa [List.take_left] at hready

theorem filterMap_getElem?_range {α : Type} (l : List α) :
    ((List.range l.length).filterMap fun i => l[i]?) = l := by
  induction l with
  | nil => rfl
  | cons a l ih =>
      rw [List.length_cons, List.range_succ_eq_map]
      show a :: List.filterMap _ (List.map Nat.succ (List.range l.length)) = a :: l
      rw [List.filterMap_map]
      exact congrArg (a :: ·) ih

/-- Documents with different names have different keys. -/
theorem nodup_includeKey {ds : List Document} (hnames : (ds.map Document.name).Nodup) :
    (ds.map Document.includeKey).Nodup := by
  have hkeys : ds.map Document.includeKey = (ds.map Document.name).map (· ++ ".fxml") := by
    rw [List.map_map]
    rfl
  rw [hkeys]
  exact hnames.map fun _ _ => (String.append_left_inj ".fxml").mp

theorem includeKey_ne {ds : List Document} (hkeys : (ds.map Document.includeKey).Nodup) {i j : Nat}
    {d e : Document} (hd : ds[i]? = some d) (he : ds[j]? = some e) (hne : i ≠ j) :
    d.includeKey ≠ e.includeKey := by
  intro heq
  have hi : i < (ds.map Document.includeKey).length := by
    rw [List.length_map]
    exact (List.getElem?_eq_some_iff.mp hd).1
  refine hne ((List.getElem?_inj hi hkeys).mp ?_)
  rw [List.getElem?_map, List.getElem?_map, hd, he, Option.map_some, Option.map_some, heq]

end Session

/-! ## The invariant -/

namespace Session

/-- Where a session stands after the jobs `done`, if all compiled
documents have got their methods of the batch. -/
structure Progress (options : Options) (ds : List Document) (methods : List Method)
    (sources : Sources) (done : List Job) (s : Session) : Prop where
  documents : ∀ i : Nat, s.documents[i]?
    = ds[i]?.map fun d => if .identify i ∈ done then d.named else d
  offers : ∀ (i : Nat) (d : Document), ds[i]? = some d → .identify i ∈ done → s.scope.Offers d
  results : List.Forall₂ (fun i call => ∃ method, methods[i]? = some method ∧ call = (i, .ok method))
    (compiled done) s.results
  sources : s.sources = sources.applyAll ((compiled done).filterMap fun i =>
    (List.zipWith (Document.update options) ds methods)[i]?)

variable {options : Options} {handler : Handler} {ds : List Document} {methods : List Method}
  {sources : Sources} {done : List Job} {s : Session}

theorem Progress.identify (hkeys : (ds.map Document.includeKey).Nodup)
    (hall : Document.AllMake options handler ds sources methods)
    (h : Progress options ds methods sources done s) (i : Nat) :
    Progress options ds methods sources (done ++ [.identify i])
      (s.step options handler (.identify i)) := by
  have hcompiled : compiled (done ++ [.identify i]) = compiled done := by simp [compiled]
  have hmem : ∀ j, j ≠ i → (Job.identify j ∈ done ++ [.identify i] ↔ .identify j ∈ done) := by
    intro j hne
    simp [hne]
  cases hd : ds[i]? with
  | none =>
      have hstep : s.step options handler (.identify i) = s := by
        have hold : s.documents[i]? = none := by rw [h.documents, hd, Option.map_none]
        simp only [step, hold]
      rw [hstep]
      refine ⟨fun j => ?_, fun j d hj hin => ?_, hcompiled ▸ h.results, hcompiled ▸ h.sources⟩
      · by_cases hne : j = i
        · rw [h.documents, hne, hd, Option.map_none, Option.map_none]
        · simp only [hmem j hne, h.documents]
      · have hne : j ≠ i := by
          rintro rfl
          rw [hd] at hj
          cases hj
        exact h.offers j d hj ((hmem j hne).mp hin)
  | some d =>
      obtain ⟨d', hold, hd'⟩ : ∃ d', s.documents[i]? = some d' ∧ (d' = d ∨ d' = d.named) := by
        refine ⟨_, by rw [h.documents, hd, Option.map_some], ?_⟩
        split
        · exact Or.inr rfl
        · exact Or.inl rfl
      obtain ⟨hnamed, hsame⟩ := Document.identify_again hd' s.scope
      have hstep : s.step options handler (.identify i)
          = { s with documents := s.documents.set i d.named, scope := (d'.identify s.scope).2 } := by
        simp only [step, hold, hnamed]
      rw [hstep]
      refine ⟨fun j => ?_, fun j e hj hin => ?_, hcompiled ▸ h.results, hcompiled ▸ h.sources⟩
      · rw [List.getElem?_set]
        by_cases hne : j = i
        · rw [hne, if_pos rfl, if_pos (List.getElem?_eq_some_iff.mp hold).1, hd, Option.map_some,
            if_pos (by simp)]
        · rw [if_neg (Ne.symm hne), h.documents]
          simp only [hmem j hne]
      · by_cases hne : j = i
        · rw [hne, hd] at hj
          cases hj
          obtain ⟨root, controller, hroot⟩ := hall.includable d (List.mem_of_getElem? hd)
          exact (Document.identify_offers hroot s.scope).of_sameTargets (hsame _)
        · -- The document named now has another key than the one at `j`.
          have hkey : d.includeKey ∉ [e.includeKey] := fun hin =>
            includeKey_ne hkeys hd hj (Ne.symm hne) (List.mem_singleton.mp hin)
          exact (h.offers j e hj ((hmem j hne).mp hin)).of_sameTargets
            ((d.identify_sameTargets s.scope hkey).trans (hsame _))

theorem Progress.compile (hkeys : (ds.map Document.includeKey).Nodup)
    (hall : Document.AllMake options handler ds sources methods)
    (h : Progress options ds methods sources done s) {i : Nat} {rest : List Job}
    (hjobs : Admissible ds (done ++ .compile i :: rest)) :
    Progress options ds methods sources (done ++ [.compile i])
      (s.step options handler (.compile i)) := by
  obtain ⟨hself, hincluded⟩ := hjobs.ready_at
  obtain ⟨d, hd⟩ : ∃ d, ds[i]? = some d := ⟨_, List.getElem?_eq_getElem hjobs.lt_length⟩
  obtain ⟨method, hmethod, hmakes, hfile⟩ := hall.getElem? hd
  -- Whatever the document includes, the batch offered, and so does the session by now.
  have hsame : (Document.identifyAll ds {}).2.SameTargets s.scope d.named.includeSources := by
    refine Scope.sameTargets_of_offers fun source hsource => ?_
    obtain ⟨controller, htarget⟩ := hmakes.targets source hsource
    obtain ⟨e, he, rfl⟩ := Document.exists_includeKey_of_target htarget
    obtain ⟨j, hj⟩ := List.getElem?_of_mem he
    rw [d.includeSources_named] at hsource
    exact ⟨e, rfl, Document.identifyAll_offers hkeys hall.includable {} e he, h.offers j e hj
      (hincluded j (List.getElem?_eq_some_iff.mp hj).1 d hd e hj hsource)⟩
  have hfile' : (s.sources.get? d.named.controllerText).isSome = true := by
    rw [h.sources, Sources.isSome_get?_applyAll, d.controllerText_named]
    exact hfile
  have hstep : s.step options handler (.compile i)
      = { s with
          scope := s.scope.idle
          sources := s.sources.apply (d.update options method)
          results := s.results ++ [(i, .ok method)] } := by
    have hold : s.documents[i]? = some d.named := by
      rw [h.documents, hd, Option.map_some, if_pos hself]
    simp only [step, hold, Document.compile_of_makes (hmakes.of_sameTargets hsame) hfile',
      d.update_named]
  have hcompiled : compiled (done ++ [.compile i]) = compiled done ++ [i] := by simp [compiled]
  have hmem : ∀ j, Job.identify j ∈ done ++ [.compile i] ↔ .identify j ∈ done := by simp
  have hupdate : (List.zipWith (Document.update options) ds methods)[i]?
      = some (d.update options method) := by
    rw [List.getElem?_zipWith, hd, hmethod]
  rw [hstep]
  refine ⟨fun j => ?_, fun j e hj hin => h.offers j e hj ((hmem j).mp hin), ?_, ?_⟩
  · simp only [hmem, h.documents]
  · rw [hcompiled]
    exact List.rel_append h.results (.cons ⟨method, hmethod, rfl⟩ .nil)
  · rw [hcompiled, List.filterMap_append, List.filterMap_cons_some hupdate, h.sources]
    simp only [Sources.applyAll, List.filterMap_nil, List.foldl_append, List.foldl_cons,
      List.foldl_nil]

theorem Progress.run (hkeys : (ds.map Document.includeKey).Nodup)
    (hall : Document.AllMake options handler ds sources methods) :
    ∀ {rest done : List Job} {s : Session}, Admissible ds (done ++ rest) →
      Progress options ds methods sources done s →
      Progress options ds methods sources (done ++ rest) (Session.run options handler rest s)
  | [], done, s, _, h => by
      rw [List.append_nil]
      exact h
  | job :: rest, done, s, hjobs, h => by
      have hnext : Progress options ds methods sources (done ++ [job])
          (s.step options handler job) := by
        cases job with
        | identify i => exact h.identify hkeys hall i
        | compile i => exact h.compile hkeys hall hjobs
      rw [List.append_cons] at hjobs ⊢
      exact Progress.run hkeys hall hjobs hnext

/-! ## Any order does what the batch does -/

/-- There is one update for each controller. -/
theorem nodup_update_types (hall : Document.AllMake options handler ds sources methods)
    (hcontrollers : (ds.filterMap Document.controller?).Nodup) :
    ((List.zipWith (Document.update options) ds methods).map Sources.Update.type).Nodup := by
  have htext : ds.filterMap Document.controller? = ds.map Document.controllerText := by
    rw [List.filterMap_eq_map_iff_forall_eq_some]
    intro d hd
    obtain ⟨root, controller, hroot⟩ := hall.includable d hd
    rw [Document.controllerText, Document.controller?_of_rootObject? hroot, Option.getD_some]
  have htypes : (List.zipWith (Document.update options) ds methods).map Sources.Update.type
      = ds.map Document.controllerText := by
    refine List.ext_getElem ?_ fun i _ _ => ?_
    · simp [← hall.length_eq]
    · simp [Document.update]
  rw [htypes, ← htext]
  exact hcontrollers

/-- Where a batch succeeds, any admissible order of naming and compiling
its documents gives each of them the same method and leaves the same
source files. -/
theorem run_eq_batch {jobs : List Job} (hnames : (ds.map Document.name).Nodup)
    (hcontrollers : (ds.filterMap Document.controller?).Nodup)
    (hok : (Document.compileBatch options handler ds sources).2.result = .ok methods)
    (hjobs : Admissible ds jobs) :
    let final := Session.run options handler jobs { documents := ds, sources }
    List.Forall₂ (fun i call => ∃ method, methods[i]? = some method ∧ call = (i, .ok method))
        (compiled jobs) final.results
      ∧ final.sources = (Document.compileBatch options handler ds sources).2.sources := by
  obtain ⟨hall, hfinal⟩ := Document.compileBatch_ok hok
  have hstart : Progress options ds methods sources [] { documents := ds, sources } :=
    ⟨fun i => by simp, fun _ _ _ hin => (List.not_mem_nil hin).elim, .nil, rfl⟩
  have hend : Progress options ds methods sources ([] ++ jobs)
      (Session.run options handler jobs { documents := ds, sources }) :=
    Progress.run (nodup_includeKey hnames) hall hjobs hstart
  refine ⟨hend.results, ?_⟩
  have hlength : (List.zipWith (Document.update options) ds methods).length = ds.length := by
    rw [List.length_zipWith, ← hall.length_eq, Nat.min_self]
  have hperm := hjobs.once.filterMap fun i =>
    (List.zipWith (Document.update options) ds methods)[i]?
  rw [← hlength, filterMap_getElem?_range] at hperm
  rw [hfinal, hend.sources]
  exact (Sources.applyAll_perm hperm.symm (nodup_update_types hall hcontrollers) sources).symm

/-- Two views that include each other, one of them from an element without
code, and a third by itself. -/
def crossingViews : List Document := [
  { name := "Frame"
    root := some <| .mk { kind := .declaration (some "com.example.Frame"), name := "BorderPane" } [
      .mk { kind := .property .instanceProperty, name := "top" } [
        .leaf { kind := .include "Menu.fxml", name := "include" }]]
    instructions := [.import "javafx.scene.layout" true] },
  { name := "Menu"
    root := some <| .mk { kind := .declaration (some "com.example.Menu"), name := "VBox" } [
      .mk { kind := .define, name := "fx:define" } [
        .leaf { kind := .include "Frame.fxml", name := "include" }]] },
  { name := "Dialog"
    root := some (.leaf { kind := .declaration (some "com.example.Dialog"), name := "Pane" }) }]

def crossingSources : Sources :=
  ((Sources.declare {} "com.example.Dialog").declare "com.example.Menu").declare "com.example.Frame"

/-- Names the views of the cycle twice, once between compiling the two. -/
def crossingJobs : List Job :=
  [.identify 1, .identify 0, .compile 0, .identify 2, .identify 1, .compile 2, .identify 0, .compile 1]

theorem run_eq_batch_crossingViews :
    Admissible crossingViews crossingJobs
      ∧ ∃ methods, (Document.compileBatch {} Handler.methodRef crossingViews
          crossingSources).2.result = .ok methods
        ∧ List.Forall₂ (fun i call => ∃ method, methods[i]? = some method ∧ call = (i, .ok method))
          [0, 2, 1]
          (Session.run {} Handler.methodRef crossingJobs
            { documents := crossingViews, sources := crossingSources }).results
        ∧ (Session.run {} Handler.methodRef crossingJobs
            { documents := crossingViews, sources := crossingSources }).sources
          = (Document.compileBatch {} Handler.methodRef crossingViews crossingSources).2.sources := by
  have hjobs : Admissible crossingViews crossingJobs := by decide
  exact ⟨hjobs, _, rfl, run_eq_batch (by decide) (by decide) rfl hjobs⟩

end Session

end FxmlCodegen
