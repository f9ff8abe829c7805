import FxmlCodegen.Proofs.CompileInputs

/-!
# Source files and the types they are stored under

A source file is stored under a qualified type name, and it has one of its
own, put together from its package and its type. The two are given in
different ways: to declare a type is to cut its name at the last dot, to
insert a file is to put its name together. `qualifiedName_ofType` says that
the one undoes the other for every text, whether or not it is a name.

`Sources.Op` is all that can be done to source files, compiling included.
An operation either stores a file under its own name or is a list of
updates, none of which touches package and type (`perform_cases`). So each
file stays where it belongs (`Sources.Keyed`), after any run
(`Sources.run_keyed`).
-/

namespace FxmlCodegen

open Java (Import Method SourceFile Sources)

/-! ## The name of a file -/

namespace Java.SourceFile

theorem qualifiedName_ofType (qualified : String) : (ofType qualified).qualifiedName = qualified := by
  unfold ofType
  cases hcut : Text.cutLast '.' qualified with
  | none => rfl
  | some cut =>
      obtain ⟨hqualified, -⟩ := Text.cutLast_eq_some.mp hcut
      exact hqualified.symm

theorem qualifiedName_congr {file file' : SourceFile} (hpackage : file'.package = file.package)
    (htype : file'.typeName = file.typeName) : file'.qualifiedName = file.qualifiedName := by
  rw [qualifiedName, qualifiedName, hpackage, htype]

end Java.SourceFile

theorem qualifiedName_attachMethod (options : Options) (instructions : List Instruction)
    (method : Method) (file : SourceFile) :
    (attachMethod options instructions method file).qualifiedName = file.qualifiedName := by
  unfold attachMethod
  cases instructions.isEmpty <;> cases options.replaceExisting <;>
    exact SourceFile.qualifiedName_congr rfl rfl

namespace Java.Sources

/-- The change leaves the name of every file alone. -/
def Update.KeepsName (u : Update) : Prop :=
  ∀ file, (u.change file).qualifiedName = file.qualifiedName

/-! ## Operations -/

/-- What can be done to source files. -/
inductive Op where
  | declare (qualified : String)
  | insert (file : SourceFile)
  | addMethod (type : String) (method : Method)
  /-- Changes the list of imports, which is created if need be. -/
  | modifyImports (type : String) (change : List Import → List Import)
  | removeMethods (type : String) (names : List String)
  | compile (options : Options) (handler : Handler) (d : Document) (scope : Scope)
  | compileBatch (options : Options) (handler : Handler) (ds : List Document)

/-- The type an operation stores a file for. -/
def Op.stored? : Op → Option String
  | .declare qualified => some qualified
  | .insert file => some file.qualifiedName
  | _ => none

def perform (s : Sources) : Op → Sources
  | .declare qualified => s.declare qualified
  | .insert file => s.insert file
  | .addMethod type method => s.modify type (·.addMethod method)
  | .modifyImports type change => s.modify type (·.modifyImports change)
  | .removeMethods type names => s.modify type (·.removeMethods names)
  | .compile options handler d scope => (d.compile options handler scope s).sources
  | .compileBatch options handler ds => (Document.compileBatch options handler ds s).2.sources

/-- The source files after operations, from none at all. -/
def run (ops : List Op) : Sources := ops.foldl perform {}

theorem get?_declare (s : Sources) (qualified type : String) :
    (s.declare qualified).get? type
      = (s.get? type).or (if type = qualified then some (.ofType qualified) else none) := by
  unfold declare
  cases hfile : s.get? qualified with
  | some file =>
      show s.get? type = _
      split
      · rename_i heq
        rw [heq, hfile]
        rfl
      · exact (Option.or_none).symm
  | none =>
      show (s.put qualified (.ofType qualified)).get? type = _
      split
      · rename_i heq
        rw [heq, Table.get?_put_self, hfile]
        rfl
      · rename_i hne
        rw [Table.get?_put_ne _ hne, Option.or_none]

/-- All that an operation can do: store a file under its own name, or
change files without touching their names. In the second case the type
that a file was to be stored for has one. -/
theorem perform_cases (s : Sources) (op : Op) :
    (∃ file, op.stored? = some file.qualifiedName ∧ s.perform op = s.put file.qualifiedName file)
    ∨ ∃ us : List Update, (∀ u ∈ us, u.KeepsName) ∧ (∀ type ∈ op.stored?, type ∈ s.keys)
      ∧ s.perform op = s.applyAll us := by
  have hone : ∀ u : Update, (∀ file, (u.change file).package = file.package) →
      (∀ file, (u.change file).typeName = file.typeName) → ∀ v ∈ [u], v.KeepsName := by
    intro u hpackage htype v hv file
    rw [List.mem_singleton.mp hv]
    exact SourceFile.qualifiedName_congr (hpackage file) (htype file)
  cases op with
  | insert file => exact .inl ⟨file, rfl, rfl⟩
  | declare qualified =>
      cases hfile : s.get? qualified with
      | none =>
          refine .inl ⟨.ofType qualified, ?_, ?_⟩
          · rw [SourceFile.qualifiedName_ofType]
            rfl
          · rw [SourceFile.qualifiedName_ofType, perform, declare, hfile]
      | some file =>
          refine .inr ⟨[], fun _ hu => (List.not_mem_nil hu).elim, fun type htype => ?_, ?_⟩
          · cases htype
            rw [← Table.isSome_get?, hfile]
            rfl
          · rw [perform, declare, hfile]
            rfl
  | addMethod type method =>
      exact .inr ⟨[⟨type, (·.addMethod method)⟩], hone _ (fun _ => rfl) fun _ => rfl,
        fun _ h => (Option.not_mem_none _ h).elim, rfl⟩
  | modifyImports type change =>
      exact .inr ⟨[⟨type, (·.modifyImports change)⟩], hone _ (fun _ => rfl) fun _ => rfl,
        fun _ h => (Option.not_mem_none _ h).elim, rfl⟩
  | removeMethods type names =>
      exact .inr ⟨[⟨type, (·.removeMethods names)⟩], hone _ (fun _ => rfl) fun _ => rfl,
        fun _ h => (Option.not_mem_none _ h).elim, rfl⟩
  | compile options handler d scope =>
      refine .inr ⟨_, fun u hu => ?_, fun _ h => (Option.not_mem_none _ h).elim, Document.compile_sources⟩
      obtain ⟨method, -, rfl⟩ := Option.map_eq_some_iff.mp (Option.mem_toList.mp hu)
      exact qualifiedName_attachMethod options d.instructions method
  | compileBatch options handler ds =>
      refine .inr ⟨_, fun u hu => ?_, fun _ h => (Option.not_mem_none _ h).elim, Document.compileBatch_sources ds s⟩
      obtain ⟨⟨d, method⟩, -, rfl⟩ := List.mem_map.mp hu
      exact qualifiedName_attachMethod options d.instructions method

/-- No operation but those that store a file adds a type, and none takes
one away. -/
theorem mem_keys_perform (s : Sources) (op : Op) (type : String) :
    type ∈ (s.perform op).keys ↔ type ∈ s.keys ∨ op.stored? = some type := by
  rcases s.perform_cases op with ⟨file, hstored, hperform⟩ | ⟨us, -, hstored, hperform⟩
  · rw [hperform, Table.mem_keys_put, hstored, Option.some_inj, eq_comm (a := type)]
  · rw [hperform, keys_applyAll]
    exact ⟨.inl, fun h => h.elim id (hstored type)⟩

/-! ## The invariant -/

/-- Every file is stored under its own name. -/
def Keyed (s : Sources) : Prop := ∀ entry ∈ s.entries, entry.2.qualifiedName = entry.1

theorem qualifiedName_changes {us : List Update} (hus : ∀ u ∈ us, u.KeepsName) (type : String)
    (file : SourceFile) : (changes us type file).qualifiedName = file.qualifiedName := by
  induction us generalizing file with
  | nil => rfl
  | cons u us ih =>
      rw [List.forall_mem_cons] at hus
      by_cases heq : u.type = type
      · rw [← heq, changes_cons_self, heq, ih hus.2, hus.1]
      · rw [changes_cons_ne heq, ih hus.2]

namespace Keyed

variable {s : Sources}

theorem put (h : s.Keyed) (file : SourceFile) : Keyed (s.put file.qualifiedName file) := by
  intro entry hentry
  rcases Table.mem_putEntry hentry with rfl | hentry
  · rfl
  · exact h entry hentry

theorem applyAll (h : s.Keyed) {us : List Update} (hus : ∀ u ∈ us, u.KeepsName) :
    (s.applyAll us).Keyed := by
  rintro ⟨type, file⟩ hentry
  have hfile := Table.get?_of_mem hentry
  rw [get?_applyAll, Option.map_eq_some_iff] at hfile
  obtain ⟨old, hold, rfl⟩ := hfile
  rw [qualifiedName_changes hus]
  exact h _ (Table.mem_entries_of_get? hold)

theorem perform (h : s.Keyed) (op : Op) : (s.perform op).Keyed := by
  rcases s.perform_cases op with ⟨file, -, hperform⟩ | ⟨us, hus, -, hperform⟩
  · rw [hperform]
    exact h.put file
  · rw [hperform]
    exact h.applyAll hus

theorem values_eq (h : s.Keyed) : s.values.map SourceFile.qualifiedName = s.keys := by
  rw [Table.values, Table.keys, List.map_map]
  exact List.map_inj_left.mpr h

theorem get?_eq (h : s.Keyed) (type : String) :
    (s.get? type).map SourceFile.qualifiedName = if type ∈ s.keys then some type else none := by
  cases hfile : s.get? type with
  | none =>
      rw [if_neg]
      · rfl
      · rw [← Table.isSome_get?, hfile]
        exact Bool.false_ne_true
  | some file =>
      rw [if_pos]
      · exact congrArg some (h _ (Table.mem_entries_of_get? hfile))
      · rw [← Table.isSome_get?, hfile]
        rfl

end Keyed

theorem keyed_run (ops : List Op) : (run ops).Keyed := by
  have hrun : ∀ {s : Sources}, s.Keyed → (ops.foldl Sources.perform s).Keyed := by
    induction ops with
    | nil => exact id
    | cons op ops ih => exact fun h => ih (h.perform op)
  exact hrun fun _ hentry => (List.not_mem_nil hentry).elim

/-- A file made for a type has its name. After any operations the files are
stored under their own names, no two of them have the same, and to look a
type up gives its file if there is one. To declare a type leaves all files
that are there as they are, and no operation but this and inserting a file
changes which types have one. -/
theorem run_keyed (ops : List Op) :
    (∀ qualified, (SourceFile.ofType qualified).qualifiedName = qualified)
      ∧ (run ops).values.map SourceFile.qualifiedName = (run ops).keys
      ∧ ((run ops).values.map SourceFile.qualifiedName).Nodup
      ∧ (∀ type, ((run ops).get? type).map SourceFile.qualifiedName
          = if type ∈ (run ops).keys then some type else none)
      ∧ (∀ qualified type, ((run ops).declare qualified).get? type
          = ((run ops).get? type).or (if type = qualified then some (.ofType qualified) else none))
      ∧ ∀ op type, type ∈ ((run ops).perform op).keys
          ↔ type ∈ (run ops).keys ∨ op.stored? = some type := by
  have hkeyed := keyed_run ops
  refine ⟨SourceFile.qualifiedName_ofType, hkeyed.values_eq, ?_, hkeyed.get?_eq,
    (run ops).get?_declare, (run ops).mem_keys_perform⟩
  rw [hkeyed.values_eq]
  exact (run ops).nodup

end Java.Sources

end FxmlCodegen
