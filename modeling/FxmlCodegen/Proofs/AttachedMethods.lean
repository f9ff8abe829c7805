import FxmlCodegen.Proofs.CompileInputs

/-!
# Methods attached to one file

Documents with one controller put their methods into one source file, one
after the other. What comes of the file can be said in one equation
(`attachAll_eq`), for options that replace earlier methods:

- its imports are extended by those of all documents, in their order and
  without repetition (`importsAfter`);
- of the methods without parameters under the configured name only the
  last that was attached is there; the other methods are as they were
  (`methodsAfter`).

Either part is settled after one round: attaching the same methods again
changes nothing (`attachAll_attachAll`).
-/

namespace FxmlCodegen

open Java (Import Method SourceFile Sources)

variable {options : Options}

/-! ## Imports -/

theorem addImports_cons (options : Options) (i : Instruction) (is : List Instruction)
    (imports : List Import) :
    addImports options (i :: is) imports
      = addImports options is (addImports options [i] imports) := rfl

theorem addImports_append (options : Options) (is js : List Instruction) (imports : List Import) :
    addImports options (is ++ js) imports = addImports options js (addImports options is imports) :=
  List.foldl_append

/-- All that one instruction can do to the imports. -/
theorem addImports_singleton_cases (options : Options) (i : Instruction) (imports : List Import) :
    (addImports options [i] imports = imports
      ∧ ∀ x, i.toImport? options = some x → x ∈ imports)
    ∨ ∃ x, i.toImport? options = some x ∧ x ∉ imports
      ∧ addImports options [i] imports = imports ++ [x] := by
  cases himport : i.toImport? options with
  | none => exact Or.inl ⟨by simp [addImports, himport], fun x hx => by cases hx⟩
  | some x =>
      by_cases hmem : x ∈ imports
      · refine Or.inl ⟨by simp [addImports, himport, hmem], fun y hy => ?_⟩
        cases hy
        exact hmem
      · exact Or.inr ⟨x, rfl, hmem, by simp [addImports, himport, hmem]⟩

theorem mem_addImports_of_mem {x : Import} :
    ∀ {is : List Instruction} {imports : List Import}, x ∈ imports →
      x ∈ addImports options is imports
  | [], _, hx => hx
  | i :: is, imports, hx => by
      rw [addImports_cons]
      refine mem_addImports_of_mem ?_
      rcases addImports_singleton_cases options i imports with ⟨heq, -⟩ | ⟨y, -, -, heq⟩ <;> rw [heq]
      · exact hx
      · exact List.mem_append_left _ hx

/-- Every import asked for is there in the end. -/
theorem mem_addImports {x : Import} :
    ∀ {is : List Instruction} {i : Instruction}, i ∈ is → i.toImport? options = some x →
      ∀ imports, x ∈ addImports options is imports
  | j :: is, i, hi, hx, imports => by
      rw [addImports_cons]
      rcases List.mem_cons.mp hi with rfl | hi
      · refine mem_addImports_of_mem ?_
        rcases addImports_singleton_cases options i imports with ⟨heq, hthere⟩ | ⟨y, hy, -, heq⟩
        · rw [heq]
          exact hthere x hx
        · rw [hy] at hx
          cases hx
          simp [heq]
      · exact mem_addImports hi hx _

/-- Imports that are there are not added again. -/
theorem addImports_eq_self :
    ∀ {is : List Instruction} {imports : List Import},
      (∀ i ∈ is, ∀ x, i.toImport? options = some x → x ∈ imports) →
      addImports options is imports = imports
  | [], _, _ => rfl
  | i :: is, imports, hthere => by
      have hfirst : addImports options [i] imports = imports := by
        rcases addImports_singleton_cases options i imports with ⟨heq, -⟩ | ⟨x, hx, hnew, -⟩
        · exact heq
        · exact (hnew (hthere i List.mem_cons_self x hx)).elim
      rw [addImports_cons, hfirst]
      exact addImports_eq_self fun j hj => hthere j (List.mem_cons_of_mem i hj)

/-- The import list after the instructions; without any it stays as it is,
also absent. -/
def importsAfter (options : Options) (is : List Instruction) (imports : Option (List Import)) :
    Option (List Import) :=
  if is.isEmpty then imports else some (addImports options is (imports.getD []))

theorem importsAfter_append (options : Options) (is js : List Instruction)
    (imports : Option (List Import)) :
    importsAfter options (is ++ js) imports
      = importsAfter options js (importsAfter options is imports) := by
  cases is with
  | nil => rfl
  | cons i is =>
      cases js with
      | nil => simp [importsAfter]
      | cons j js => simp [importsAfter, ← addImports_append]

theorem importsAfter_importsAfter (options : Options) (is : List Instruction)
    (imports : Option (List Import)) :
    importsAfter options is (importsAfter options is imports) = importsAfter options is imports := by
  unfold importsAfter
  split
  · rfl
  · rw [Option.getD_some, addImports_eq_self fun i hi x hx => mem_addImports hi hx _]

/-! ## Methods -/

/-- The method stands where the factory method of a document would: it has
the configured name and no parameters. -/
def Java.Method.isFactory (options : Options) (m : Method) : Bool :=
  m.name = options.methodName && m.parameters.isEmpty

theorem factoryMethod_isFactory (options : Options) (rootType : Java.TypeName)
    (body : List Java.Stmt) : (factoryMethod options rootType body).isFactory options = true := by
  simp [Method.isFactory, factoryMethod]

/-- The methods after a factory method has been put in the place of those
that were there. -/
def methodsAfter (options : Options) : Option Method → List Method → List Method
  | none, ms => ms
  | some m, ms => ms.filter (fun m => !m.isFactory options) ++ [m]

/-- The method attached last is the only one to show. -/
theorem methodsAfter_methodsAfter {m : Method} (hm : m.isFactory options = true) (m' : Method)
    (ms : List Method) :
    methodsAfter options (some m') (methodsAfter options (some m) ms)
      = methodsAfter options (some m') ms := by
  simp [methodsAfter, List.filter_filter, hm]

theorem attachMethod_eq (hreplace : options.replaceExisting = true) (is : List Instruction)
    (m : Method) (file : SourceFile) :
    attachMethod options is m file
      = { file with
          imports := importsAfter options is file.imports
          methods := methodsAfter options (some m) file.methods } := by
  cases is with
  | nil =>
      simp [attachMethod, hreplace, importsAfter, methodsAfter, SourceFile.removeMethods,
        SourceFile.addMethod, Method.isFactory]
  | cons i is =>
      simp [attachMethod, hreplace, importsAfter, methodsAfter, SourceFile.removeMethods,
        SourceFile.addMethod, SourceFile.modifyImports, Method.isFactory]

/-! ## One file, many documents -/

/-- The file after the methods have been attached in order. -/
def attachAll (options : Options) (done : List (Document × Method)) (file : SourceFile) :
    SourceFile :=
  done.foldl (fun file p => attachMethod options p.1.instructions p.2 file) file

theorem attachAll_eq (hreplace : options.replaceExisting = true) :
    ∀ {done : List (Document × Method)}, (∀ p ∈ done, p.2.isFactory options = true) →
      ∀ file : SourceFile, attachAll options done file
        = { file with
            imports := importsAfter options (done.flatMap (·.1.instructions)) file.imports
            methods := methodsAfter options (done.getLast?.map (·.2)) file.methods }
  | [], _, _ => rfl
  | (d, m) :: done, hfactory, file => by
      have hm : m.isFactory options = true := hfactory (d, m) List.mem_cons_self
      show attachAll options done (attachMethod options d.instructions m file) = _
      rw [attachMethod_eq hreplace,
        attachAll_eq hreplace fun p hp => hfactory p (List.mem_cons_of_mem _ hp),
        List.flatMap_cons, importsAfter_append, List.getLast?_cons]
      cases done.getLast? with
      | none => rfl
      | some last => simp only [Option.map_some, Option.getD_some, methodsAfter_methodsAfter hm]

theorem attachAll_attachAll (hreplace : options.replaceExisting = true)
    {done : List (Document × Method)} (hfactory : ∀ p ∈ done, p.2.isFactory options = true)
    (file : SourceFile) :
    attachAll options done (attachAll options done file) = attachAll options done file := by
  rw [attachAll_eq hreplace hfactory, attachAll_eq hreplace hfactory]
  simp only [importsAfter_importsAfter]
  cases hlast : done.getLast? with
  | none => rfl
  | some p =>
      have hp : p.2.isFactory options = true := hfactory p (List.mem_of_getLast? hlast)
      simp only [Option.map_some, methodsAfter_methodsAfter hp]

/-! ## All files -/

namespace Document

/-- The file of a type gets the methods of the documents with that
controller. -/
theorem changes_updates (options : Options) (done : List (Document × Method)) (type : String)
    (file : SourceFile) :
    Sources.changes (updates options done) type file
      = attachAll options (done.filter (·.1.controllerText = type)) file := by
  rw [Sources.changes, updates, List.filter_map, List.foldl_map]
  rfl

variable {handler : Handler} {scope : Scope}

theorem Makes.isFactory {d : Document} {method : Method}
    (hmakes : d.Makes options handler scope method) : method.isFactory options = true := by
  obtain ⟨root, controller, stmts, -, -, rfl⟩ := hmakes
  exact factoryMethod_isFactory options _ stmts

theorem isFactory_of_mem_finished {sources : Sources} :
    ∀ {ds : List Document}, ∀ p ∈ finished options handler scope sources ds,
      p.2.isFactory options = true
  | [], p, hp => (List.not_mem_nil hp).elim
  | d :: ds, p, hp => by
      rw [finished] at hp
      split at hp
      · rename_i method hmethod
        rcases List.mem_cons.mp hp with rfl | hp
        · exact (compile_result_eq_ok.mp hmethod).1.isFactory
        · exact isFactory_of_mem_finished p hp
      · exact (List.not_mem_nil hp).elim

end Document

end FxmlCodegen
