import FxmlCodegen.Proofs.BatchSuccess
import FxmlCodegen.Proofs.GraphBuilt
import Mathlib.Data.List.Pairwise

/-!
# Variables are bound before they are read

A line of a method reads the variables that stand for elements: the
receiver of a call, the target of a static setter, what a property is set
to, what is returned (`Java.Line.reads`). Names in the text of attribute
values are the author's and do not count. In the method of a document all
of them are bound on an earlier line (`Java.DeclaredBeforeUse`), with one
exception: a property directly inside a property. Properties are not
objects and their variables are never bound, but the outer property is set
to the inner one as if it were, and what is inside the inner one is set on
the variable of the outer.

So a method is in order exactly if its document has no such pair, where
pairs without code, below an include or an element without code of its own,
do not matter (`Document.compileBatch_declaredBeforeUse_iff`). Nothing
refuses the others: `nestedProperties` compiles.

That the exception is real rests on names. The variable of a property is
no `fx:id` and was made for it alone, so no object of the document can
happen to bind it (`Element.identifierText_not_mem_vars`).
-/

namespace FxmlCodegen

open Java (Call Expr Line Method Sources Stmt)

/-! ## Lines -/

namespace Java

/-- The variable an expression is, if it is one. -/
def Expr.variable? : Expr → Option String
  | .name var => some var
  | _ => none

namespace Line

/-- The variables of elements that the line reads. -/
def reads (line : Line) : List String :=
  match line.stmt.action with
  | .bind _ _ _ => []
  | .apply var _ value => var :: if line.wires then value.variable?.toList else []
  | .eval _ => []
  | .ret value => value.variable?.toList

/-- The variable that the line declares or assigns. -/
def bound? (line : Line) : Option String :=
  match line.stmt.action with
  | .bind var _ _ => some var
  | _ => none

end Line

/-- Each variable that a line reads is bound by an earlier line. -/
def DeclaredBeforeUse (lines : List Line) : Prop :=
  ∀ i (hi : i < lines.length), ∀ x ∈ lines[i].reads, x ∈ (lines.take i).filterMap Line.bound?

instance (lines : List Line) : Decidable (DeclaredBeforeUse lines) :=
  inferInstanceAs (Decidable (∀ i (hi : i < lines.length), ∀ x ∈ lines[i].reads, _))

/-- The same where the variables `bound` are bound already. -/
def ReadsFrom (bound : List String) : List Line → Prop
  | [] => True
  | line :: lines =>
    (∀ x ∈ line.reads, x ∈ bound) ∧ ReadsFrom (bound ++ line.bound?.toList) lines

theorem filterMap_bound?_cons (line : Line) (lines : List Line) :
    (line :: lines).filterMap Line.bound? = line.bound?.toList ++ lines.filterMap Line.bound? := by
  rw [List.filterMap_cons]
  cases line.bound? <;> rfl

theorem readsFrom_iff : ∀ {bound : List String} {lines : List Line},
    ReadsFrom bound lines
      ↔ ∀ i (hi : i < lines.length), ∀ x ∈ lines[i].reads,
        x ∈ bound ++ (lines.take i).filterMap Line.bound?
  | bound, [] => by simp [ReadsFrom]
  | bound, line :: lines => by
      rw [ReadsFrom, readsFrom_iff]
      constructor
      · rintro ⟨hline, hlines⟩ i hi x hx
        cases i with
        | zero => exact List.mem_append_left _ (hline x hx)
        | succ i =>
            have hmem := hlines i (Nat.lt_of_succ_lt_succ hi) x hx
            rw [List.append_assoc] at hmem
            rw [List.take_succ_cons, filterMap_bound?_cons]
            exact hmem
      · intro h
        refine ⟨fun x hx => ?_, fun i hi x hx => ?_⟩
        · simpa using h 0 (Nat.zero_lt_succ _) x hx
        · have hmem := h (i + 1) (Nat.succ_lt_succ hi) x hx
          rw [List.take_succ_cons, filterMap_bound?_cons] at hmem
          rw [List.append_assoc]
          exact hmem

theorem declaredBeforeUse_iff {lines : List Line} : DeclaredBeforeUse lines ↔ ReadsFrom [] lines := by
  rw [readsFrom_iff]
  rfl

theorem readsFrom_append : ∀ {bound : List String} {lines lines' : List Line},
    ReadsFrom bound (lines ++ lines')
      ↔ ReadsFrom bound lines ∧ ReadsFrom (bound ++ lines.filterMap Line.bound?) lines'
  | bound, [], lines' => by simp [ReadsFrom]
  | bound, line :: lines, lines' => by
      rw [List.cons_append, ReadsFrom, ReadsFrom, readsFrom_append, and_assoc,
        filterMap_bound?_cons, List.append_assoc]

/-- Lines that read variables bound before them. -/
theorem readsFrom_of_reads {bound : List String} {lines : List Line}
    (hreads : ∀ line ∈ lines, ∀ x ∈ line.reads, x ∈ bound) : ReadsFrom bound lines := by
  rw [readsFrom_iff]
  intro i hi x hx
  exact List.mem_append_left _ (hreads lines[i] (List.getElem_mem hi) x hx)

/-- What is bound by some line is bound at the end. -/
theorem ReadsFrom.mem {bound : List String} {lines : List Line} (hlines : ReadsFrom bound lines)
    {line : Line} (hline : line ∈ lines) {x : String} (hx : x ∈ line.reads) :
    x ∈ bound ++ lines.filterMap Line.bound? := by
  obtain ⟨i, hi, rfl⟩ := List.getElem_of_mem hline
  rcases List.mem_append.mp (readsFrom_iff.mp hlines i hi x hx) with hmem | hmem
  · exact List.mem_append_left _ hmem
  · exact List.mem_append_right _ (((List.take_sublist i lines).filterMap _).subset hmem)

end Java

/-! ## Single statements -/

/-- The line changes the object in the variable `owner`, or no object, and
binds nothing. -/
structure Java.Line.Touches (owner : String) (line : Line) : Prop where
  reads : ∀ x ∈ line.reads, x = owner
  bound? : line.bound? = none

theorem Attribute.touches_emit (env : Env) (owner : String) (a : Attribute) :
    (Line.mk (a.emit env owner).toStmt false).Touches owner := by
  rcases a.emit_cases env owner with ⟨-, -, hemit⟩ | ⟨-, call, value, stmt, -, hemit, hact⟩
  · rw [hemit]
    exact ⟨fun x hx => (List.not_mem_nil hx).elim, rfl⟩
  · rw [hemit, AttributeCode.toStmt]
    constructor
    · simp [Line.reads, hact]
    · simp [Line.bound?, hact]

namespace Emit

theorem touches_attributeStmts (env : Env) (h : Head) (owner : String) :
    ∀ line ∈ Line.plain (attributeStmts env h owner), line.Touches owner := by
  intro line hline
  obtain ⟨stmt, hstmt, rfl⟩ := List.mem_map.mp hline
  obtain ⟨a, -, rfl⟩ := exists_emit_of_mem_attributeStmts hstmt
  exact a.touches_emit env owner

theorem touches_attributes (env : Env) (h : Head) (owner : String) :
    ∀ line ∈ Line.plain (h.attributes.map fun a => (a.emit env owner).toStmt),
      line.Touches owner := by
  intro line hline
  obtain ⟨stmt, hstmt, rfl⟩ := List.mem_map.mp hline
  obtain ⟨a, -, rfl⟩ := List.mem_map.mp hstmt
  exact a.touches_emit env owner

end Emit

namespace Java

theorem filterMap_bound?_of_touches {owner : String} {lines : List Line}
    (htouches : ∀ line ∈ lines, line.Touches owner) : lines.filterMap Line.bound? = [] :=
  List.filterMap_eq_nil_iff.mpr fun line hline => (htouches line hline).bound?

theorem readsFrom_of_touches {owner : String} {bound : List String} {lines : List Line}
    (htouches : ∀ line ∈ lines, line.Touches owner) (howner : owner ∈ bound) :
    ReadsFrom bound lines :=
  readsFrom_of_reads fun line hline x hx => by
    rw [(htouches line hline).reads x hx]
    exact howner

end Java

theorem Emit.reads_wiring (owner : String) (kind : PropertyKind) (property var : String) :
    (Line.mk (Emit.wiring owner kind property var) true).reads = [owner, var] := by
  rw [Line.reads, Emit.action_wiring]
  rfl

theorem Emit.bound?_wiring (owner : String) (kind : PropertyKind) (property var : String) :
    (Line.mk (Emit.wiring owner kind property var) true).bound? = none := by
  rw [Line.bound?, Emit.action_wiring]

theorem Emit.reads_construction (env : Env) (h : Head) (var : String) :
    (Line.mk (Emit.construction env h var) false).reads = [] := by
  rw [Line.reads, Emit.action_construction]

theorem Emit.bound?_construction (env : Env) (h : Head) (var : String) :
    (Line.mk (Emit.construction env h var) false).bound? = some var := by
  rw [Line.bound?, Emit.action_construction]

theorem Emit.touches_trailer (env : Env) (var : String) (place : Place) :
    ∀ line ∈ Line.plain (Emit.trailer env var place), line.Touches var := by
  intro line hline
  cases place with
  | inside owner => cases hline
  | root =>
      rcases List.mem_cons.mp hline with rfl | hline
      · exact ⟨fun x hx => (List.not_mem_nil hx).elim, rfl⟩
      · obtain rfl := List.mem_singleton.mp hline
        exact ⟨fun x hx => List.mem_singleton.mp hx, rfl⟩

/-! ## What is bound -/

namespace Element

mutual

/-- The lines of an element bind the variables of what is constructed. -/
theorem filterMap_bound?_lines (env : Env) (place : Place) :
    ∀ e : Element, (e.lines env place).filterMap Line.bound? = e.vars
  | mk h cs => by
      rw [lines, vars, constructed]
      cases hkind : h.kind with
      | declaration controller =>
          simp only [Line.plain, List.map_cons, List.cons_append]
          rw [List.filterMap_cons_some (Emit.bound?_construction ..), List.filterMap_append,
            List.filterMap_append, filterMap_bound?_linesAll env _ cs, ← Line.plain, ← Line.plain,
            Java.filterMap_bound?_of_touches (Emit.touches_attributeStmts env h _),
            Java.filterMap_bound?_of_touches (Emit.touches_trailer env _ place), List.append_nil]
          rfl
      | «include» source =>
          simp only [Emit.includeCode, Line.plain, List.map_cons]
          rw [Java.filterMap_bound?_cons, ← Line.plain,
            Java.filterMap_bound?_of_touches (Emit.touches_attributes env h _)]
          rfl
      | property kind => exact filterMap_bound?_linesWired env _ _ kind h.name cs
      | _ => rfl

theorem filterMap_bound?_linesAll (env : Env) (owner : String) :
    ∀ es : List Element, (linesAll env owner es).filterMap Line.bound? = varsAll es
  | [] => rfl
  | e :: es => by
      rw [linesAll, varsAll_cons, List.filterMap_append, filterMap_bound?_lines env _ e,
        filterMap_bound?_linesAll env owner es]

theorem filterMap_bound?_linesWired (env : Env) (self owner : String) (kind : PropertyKind)
    (property : String) : ∀ es : List Element,
      (linesWired env self (Emit.wiring owner kind property) es).filterMap Line.bound? = varsAll es
  | [] => rfl
  | e :: es => by
      have hwire : (if e.head.needsName then
          [Line.mk (Emit.wiring owner kind property e.head.identifierText) true] else []).filterMap
            Line.bound? = [] := by
        split
        · rw [List.filterMap_cons_none (Emit.bound?_wiring ..), List.filterMap_nil]
        · rfl
      rw [linesWired, varsAll_cons, List.filterMap_append, List.filterMap_append, hwire,
        List.nil_append, filterMap_bound?_lines env _ e,
        filterMap_bound?_linesWired env self owner kind property es]

end

/-! ## Properties inside properties -/

mutual

/-- The properties directly inside a property, where both have code. -/
def innerProperties : Element → List Head
  | mk h cs =>
    match h.kind with
    | .declaration _ => innerPropertiesAll cs
    | .property _ => (cs.map head).filter Head.isProperty ++ innerPropertiesAll cs
    | _ => []

def innerPropertiesAll : List Element → List Head
  | [] => []
  | e :: es => e.innerProperties ++ innerPropertiesAll es

end

theorem head_mem_preorder : ∀ e : Element, e.head ∈ e.preorder
  | mk h cs => by
      rw [preorder, preorderWhere, if_pos rfl]
      exact List.mem_cons_self

theorem head_mem_preorderAll {e : Element} :
    ∀ {es : List Element}, e ∈ es → e.head ∈ preorderAllWhere (fun _ => true) es
  | e' :: es, hmem => by
      rw [preorderAllWhere]
      rcases List.mem_cons.mp hmem with rfl | hmem
      · exact List.mem_append_left _ e.head_mem_preorder
      · exact List.mem_append_right _ (head_mem_preorderAll hmem)

mutual

theorem mem_innerProperties : ∀ (e : Element) {q : Head}, q ∈ e.innerProperties →
    q ∈ e.preorder ∧ q.isProperty = true
  | mk h cs, q, hq => by
      rw [preorder, preorderWhere, if_pos rfl]
      suffices hcs : q ∈ preorderAllWhere (fun _ => true) cs ∧ q.isProperty = true from
        ⟨List.mem_cons_of_mem h hcs.1, hcs.2⟩
      rw [innerProperties] at hq
      cases hkind : h.kind with
      | declaration => exact mem_innerPropertiesAll cs (by simpa only [hkind] using hq)
      | property =>
          rw [hkind] at hq
          rcases List.mem_append.mp hq with hq | hq
          · obtain ⟨hq, hprop⟩ := List.mem_filter.mp hq
            obtain ⟨e, he, rfl⟩ := List.mem_map.mp hq
            exact ⟨head_mem_preorderAll he, hprop⟩
          · exact mem_innerPropertiesAll cs hq
      | _ => simp [hkind] at hq

theorem mem_innerPropertiesAll : ∀ (es : List Element) {q : Head}, q ∈ innerPropertiesAll es →
    q ∈ preorderAllWhere (fun _ => true) es ∧ q.isProperty = true
  | e :: es, q, hq => by
      rw [preorderAllWhere]
      rw [innerPropertiesAll] at hq
      rcases List.mem_append.mp hq with hq | hq
      · obtain ⟨hmem, hprop⟩ := mem_innerProperties e hq
        exact ⟨List.mem_append_left _ hmem, hprop⟩
      · obtain ⟨hmem, hprop⟩ := mem_innerPropertiesAll es hq
        exact ⟨List.mem_append_right _ hmem, hprop⟩

end

theorem filter_isProperty_unnamed : ∀ es : List Element,
    ((unnamedAll es).map head).filter Head.isProperty
      = ((es.map head).filter Head.isProperty).map Head.unnamed
  | [] => rfl
  | e :: es => by
      have hprop : e.head.unnamed.isProperty = e.head.isProperty := rfl
      rw [unnamedAll, List.map_cons, List.map_cons, List.filter_cons, List.filter_cons,
        filter_isProperty_unnamed es, head_unnamed, hprop]
      split <;> rfl

mutual

theorem innerProperties_unnamed :
    ∀ e : Element, e.unnamed.innerProperties = e.innerProperties.map Head.unnamed
  | mk h cs => by
      have hall := innerPropertiesAll_unnamed cs
      have hkind : h.unnamed.kind = h.kind := rfl
      rw [unnamed, innerProperties, innerProperties, hkind]
      split
      · exact hall
      · rw [List.map_append, filter_isProperty_unnamed, hall]
      · rfl

theorem innerPropertiesAll_unnamed : ∀ es : List Element,
    innerPropertiesAll (unnamedAll es) = (innerPropertiesAll es).map Head.unnamed
  | [] => rfl
  | e :: es => by
      rw [unnamedAll, innerPropertiesAll, innerPropertiesAll, List.map_append,
        innerProperties_unnamed e, innerPropertiesAll_unnamed es]

end

theorem innerProperties_identify (owner : String) (e : Element) (taken : List String) :
    (e.identify owner taken).1.innerProperties = [] ↔ e.innerProperties = [] := by
  rw [← List.map_eq_nil_iff (f := Head.unnamed), ← innerProperties_unnamed, unnamed_identify,
    innerProperties_unnamed, List.map_eq_nil_iff]

/-! ## Without them nothing is read too early -/

theorem readsFrom_declaration (env : Env) (place : Place) {h : Head} {cs : List Element}
    {controller : Option String} (hkind : h.kind = .declaration controller) {bound : List String}
    (hchildren : ∀ bound, h.identifierText ∈ bound →
      Java.ReadsFrom bound (linesAll env h.identifierText cs)) :
    Java.ReadsFrom bound ((mk h cs).lines env place) := by
  rw [lines, hkind]
  simp only [Line.plain, List.map_cons, List.cons_append]
  rw [Java.ReadsFrom, Emit.reads_construction, Emit.bound?_construction, Option.toList_some]
  refine ⟨fun x hx => (List.not_mem_nil hx).elim, ?_⟩
  have hvar : h.identifierText ∈ bound ++ [h.identifierText] :=
    List.mem_append_right _ List.mem_cons_self
  rw [Java.readsFrom_append, Java.readsFrom_append]
  exact ⟨Java.readsFrom_of_touches (Emit.touches_attributeStmts env h _) hvar,
    hchildren _ (List.mem_append_left _ hvar),
    Java.readsFrom_of_touches (Emit.touches_trailer env _ place)
      (List.mem_append_left _ (List.mem_append_left _ hvar))⟩

mutual

/-- Inside an object that is bound, the lines of an element read what is
bound. -/
theorem readsFrom_lines (env : Env) : ∀ (e : Element) {owner : String} {bound : List String},
    e.innerProperties = [] → owner ∈ bound → Java.ReadsFrom bound (e.lines env (.inside owner))
  | mk h cs, owner, bound, hinner, howner => by
      rw [innerProperties] at hinner
      cases hkind : h.kind with
      | declaration controller =>
          rw [hkind] at hinner
          exact readsFrom_declaration env _ hkind fun _ hvar => readsFrom_linesAll env cs hinner hvar
      | «include» source =>
          rw [lines, hkind]
          simp only [Emit.includeCode, Line.plain, List.map_cons]
          refine ⟨fun x hx => (List.not_mem_nil hx).elim, ?_⟩
          exact Java.readsFrom_of_touches (Emit.touches_attributes env h h.identifierText)
            (List.mem_append_right _ List.mem_cons_self)
      | property kind =>
          rw [hkind] at hinner
          obtain ⟨hnone, hinner⟩ := List.append_eq_nil_iff.mp hinner
          rw [lines, hkind]
          exact readsFrom_linesWired env _ _ kind h.name cs hinner hnone howner
      | _ =>
          rw [lines, hkind]
          trivial

theorem readsFrom_linesAll (env : Env) :
    ∀ (es : List Element) {owner : String} {bound : List String}, innerPropertiesAll es = [] →
      owner ∈ bound → Java.ReadsFrom bound (linesAll env owner es)
  | [], _, _, _, _ => trivial
  | e :: es, owner, bound, hinner, howner => by
      rw [innerPropertiesAll] at hinner
      obtain ⟨hfirst, hrest⟩ := List.append_eq_nil_iff.mp hinner
      rw [linesAll, Java.readsFrom_append]
      exact ⟨readsFrom_lines env e hfirst howner,
        readsFrom_linesAll env es hrest (List.mem_append_left _ howner)⟩

theorem readsFrom_linesWired (env : Env) (self owner : String) (kind : PropertyKind)
    (property : String) : ∀ (es : List Element) {bound : List String}, innerPropertiesAll es = [] →
      (es.map head).filter Head.isProperty = [] → owner ∈ bound →
      Java.ReadsFrom bound (linesWired env self (Emit.wiring owner kind property) es)
  | [], _, _, _, _ => trivial
  | e :: es, bound, hinner, hnone, howner => by
      rw [innerPropertiesAll] at hinner
      obtain ⟨hfirst, hrest⟩ := List.append_eq_nil_iff.mp hinner
      have hnot : ∀ h ∈ (e :: es).map head, ¬ h.isProperty = true := List.filter_eq_nil_iff.mp hnone
      have hprop : e.head.isProperty = false :=
        Bool.eq_false_iff.mpr (hnot e.head List.mem_cons_self)
      have hnone' : (es.map head).filter Head.isProperty = [] :=
        List.filter_eq_nil_iff.mpr fun h hmem => hnot h (List.mem_cons_of_mem _ hmem)
      rw [linesWired, Java.readsFrom_append, Java.readsFrom_append, filterMap_bound?_lines,
        lines_inside_eq env self owner hprop]
      refine ⟨readsFrom_lines env e hfirst howner, ?_,
        readsFrom_linesWired env self owner kind property es hrest hnone'
          (List.mem_append_left _ (List.mem_append_left _ howner))⟩
      -- What is set here is an object, bound on the first of its lines.
      refine Java.readsFrom_of_reads fun line hline x hx => ?_
      by_cases hneeds : e.head.needsName = true
      · rw [if_pos hneeds] at hline
        obtain rfl := List.mem_singleton.mp hline
        rw [Head.needsName, hprop, Bool.or_false] at hneeds
        obtain ⟨rest, hvars⟩ := vars_of_isObject hneeds
        rw [Emit.reads_wiring] at hx
        rcases List.mem_cons.mp hx with rfl | hx
        · exact List.mem_append_left _ howner
        · rw [List.mem_singleton.mp hx, hvars]
          exact List.mem_append_right _ List.mem_cons_self
      · rw [if_neg hneeds] at hline
        exact (List.not_mem_nil hline).elim

end

/-! ## With them something is -/

mutual

/-- A property inside a property is read. -/
theorem exists_reads_lines (env : Env) : ∀ (e : Element) {place : Place} {q : Head},
    q ∈ e.innerProperties → ∃ line ∈ e.lines env place, q.identifierText ∈ line.reads
  | mk h cs, place, q, hq => by
      rw [innerProperties] at hq
      rw [lines]
      cases hkind : h.kind with
      | declaration controller =>
          rw [hkind] at hq
          obtain ⟨line, hline, hreads⟩ := exists_reads_linesAll env h.identifierText cs hq
          exact ⟨line, List.mem_append_right _ (List.mem_append_left _ hline), hreads⟩
      | property kind =>
          rw [hkind] at hq
          exact exists_reads_linesWired env _ _ kind h.name cs (List.mem_append.mp hq)
      | _ => simp [hkind] at hq

theorem exists_reads_linesAll (env : Env) (owner : String) : ∀ (es : List Element) {q : Head},
    q ∈ innerPropertiesAll es → ∃ line ∈ linesAll env owner es, q.identifierText ∈ line.reads
  | e :: es, q, hq => by
      rw [innerPropertiesAll] at hq
      rw [linesAll]
      rcases List.mem_append.mp hq with hq | hq
      · obtain ⟨line, hline, hreads⟩ := exists_reads_lines env e hq
        exact ⟨line, List.mem_append_left _ hline, hreads⟩
      · obtain ⟨line, hline, hreads⟩ := exists_reads_linesAll env owner es hq
        exact ⟨line, List.mem_append_right _ hline, hreads⟩

theorem exists_reads_linesWired (env : Env) (self owner : String) (kind : PropertyKind)
    (property : String) : ∀ (es : List Element) {q : Head},
      q ∈ (es.map head).filter Head.isProperty ∨ q ∈ innerPropertiesAll es →
      ∃ line ∈ linesWired env self (Emit.wiring owner kind property) es, q.identifierText ∈ line.reads
  | [], q, hq => by
      rcases hq with hq | hq <;> cases hq
  | e :: es, q, hq => by
      rw [linesWired]
      have hsplit : (q = e.head ∧ q.isProperty = true) ∨ q ∈ e.innerProperties
          ∨ (q ∈ (es.map head).filter Head.isProperty ∨ q ∈ innerPropertiesAll es) := by
        rcases hq with hq | hq
        · obtain ⟨hq, hprop⟩ := List.mem_filter.mp hq
          rcases List.mem_cons.mp hq with rfl | hq
          · exact Or.inl ⟨rfl, hprop⟩
          · exact Or.inr (Or.inr (Or.inl (List.mem_filter.mpr ⟨hq, hprop⟩)))
        · rw [innerPropertiesAll] at hq
          rcases List.mem_append.mp hq with hq | hq
          · exact Or.inr (Or.inl hq)
          · exact Or.inr (Or.inr (Or.inr hq))
      rcases hsplit with ⟨rfl, hprop⟩ | hq | hq
      · refine ⟨⟨Emit.wiring owner kind property e.head.identifierText, true⟩, ?_, ?_⟩
        · rw [Head.needsName, hprop, Bool.or_true, if_pos rfl]
          exact List.mem_append_right _ (List.mem_append_left _ List.mem_cons_self)
        · rw [Emit.reads_wiring]
          exact List.mem_cons_of_mem _ List.mem_cons_self
      · obtain ⟨line, hline, hreads⟩ := exists_reads_lines env e hq
        exact ⟨line, List.mem_append_left _ hline, hreads⟩
      · obtain ⟨line, hline, hreads⟩ := exists_reads_linesWired env self owner kind property es hq
        exact ⟨line, List.mem_append_right _ (List.mem_append_right _ hline), hreads⟩

end

end Element

/-! ## Documents -/

theorem Head.isObject_of_isProperty {h : Head} (hprop : h.isProperty = true) :
    h.isObject = false := by
  unfold isProperty at hprop
  split at hprop
  · rename_i kind hkind
    rw [isObject, hkind]
  · cases hprop

instance : Std.Symm Head.SharesByFxId := ⟨fun _ _ hgh => hgh.symm⟩

/-- The variable of a property is bound by no object: it is no `fx:id`
and belongs to the property alone. -/
theorem Element.identifierText_not_mem_vars {e : Element}
    (hnamed : ∀ h ∈ e.preorder, h.needsName = true → ∃ x, h.identifier = some x)
    (hshare : e.preorder.Pairwise Head.SharesByFxId) {q : Head} (hq : q ∈ e.preorder)
    (hprop : q.isProperty = true) : q.identifierText ∉ e.vars := by
  intro hmem
  have hnot := Head.isObject_of_isProperty hprop
  have hneeds : q.needsName = true := by rw [Head.needsName, hprop, Bool.or_true]
  have hown : q.ownFxId? = none := by rw [Head.ownFxId?, hnot]; rfl
  obtain ⟨g, hg, hsame⟩ := List.mem_map.mp hmem
  have hobj := e.isObject_of_mem_constructed g hg
  have hgpre := e.constructed_sublist.subset hg
  obtain ⟨x, hx⟩ := hnamed q hq hneeds
  obtain ⟨y, hy⟩ := hnamed g hgpre (by rw [Head.needsName, hobj, Bool.true_or])
  rw [Head.identifierText, Head.identifierText, hx, hy] at hsame
  obtain rfl : y = x := hsame
  have hne : g ≠ q := by
    rintro rfl
    rw [hobj] at hnot
    cases hnot
  have hboth := hshare.forall hgpre hq hne y hy hx
  rw [hown] at hboth
  cases hboth.2

namespace Document

open Java (DeclaredBeforeUse)

/-- The lines of the method of a document. -/
def lines (env : Env) (d : Document) : List Line := d.root.elim [] (Element.lines env .root)

/-- The properties directly inside a property, where both have code. -/
def innerProperties (d : Document) : List Head := d.root.elim [] Element.innerProperties

variable {options : Options} {handler : Handler} {d : Document}

theorem innerProperties_named : d.named.innerProperties = [] ↔ d.innerProperties = [] := by
  obtain ⟨name, root, instructions⟩ := d
  cases root with
  | none => exact Iff.rfl
  | some root => exact Element.innerProperties_identify "" root root.fxIds

/-- In the method of a document, variables are bound before they are read
exactly if no property stands directly inside a property. -/
theorem declaredBeforeUse_lines_iff (hnone : ∀ h ∈ d.heads, h.identifier = none)
    {root : Element} {controller : Option String}
    (hroot : d.named.rootObject? = some (root, controller)) (env : Env) :
    DeclaredBeforeUse (d.named.lines env) ↔ d.innerProperties = [] := by
  obtain ⟨hnamed, hkind⟩ := rootObject?_eq_some hroot
  have hheads : d.named.heads = root.preorder := by rw [heads, hnamed]
  rw [← innerProperties_named, Java.declaredBeforeUse_iff, lines, innerProperties, hnamed,
    Option.elim_some, Option.elim_some]
  constructor
  · intro hreads
    by_contra hinner
    obtain ⟨q, hq⟩ := List.exists_mem_of_ne_nil _ hinner
    obtain ⟨hmem, hprop⟩ := root.mem_innerProperties hq
    obtain ⟨line, hline, hread⟩ := root.exists_reads_lines env hq
    have hbound := hreads.mem hline hread
    rw [List.nil_append, Element.filterMap_bound?_lines] at hbound
    obtain ⟨taken, pass⟩ := d.identify_pass {}
    have hhas := pass.exists_identifier
    have hshare := pass.pairwise_sharesByFxId hnone fxId_mem_fxIds
    rw [← named, hheads] at hhas hshare
    exact Element.identifierText_not_mem_vars hhas hshare hmem hprop hbound
  · intro hinner
    obtain ⟨h, cs⟩ := root
    rw [Element.head] at hkind
    rw [Element.innerProperties, hkind] at hinner
    exact Element.readsFrom_declaration env .root hkind
      fun _ hvar => Element.readsFrom_linesAll env cs hinner hvar

/-- In a batch that succeeds, the lines of a document are the body of its
method. -/
theorem map_stmt_lines_of_compileBatch {ds : List Document} {sources : Sources}
    {methods : List Method} (hok : (compileBatch options handler ds sources).2.result = .ok methods)
    {i : Nat} (hd : ds[i]? = some d) :
    d.named.rootObject?.isSome = true ∧ ∃ method, methods[i]? = some method
      ∧ (d.named.lines (.compiling options handler (identifyAll ds {}).2 d.controllerText)).map
          Line.stmt = method.body := by
  obtain ⟨hall, -⟩ := compileBatch_ok hok
  obtain ⟨method, hmethod, ⟨root, controller, stmts, hroot, hbody, rfl⟩, -⟩ := hall.getElem? hd
  have hcontroller : d.controllerText = controller := by
    rw [← controllerText_named, controllerText, controller?_of_rootObject? hroot, Option.getD_some]
  refine ⟨by rw [hroot]; rfl, _, hmethod, ?_⟩
  obtain ⟨hnamed, hkind⟩ := rootObject?_eq_some hroot
  have hobj : root.head.isObject = true := by rw [Head.isObject, hkind]
  rw [hcontroller, lines, hnamed, Option.elim_some]
  exact (body_eq_lines hobj hbody).symm

/-- In the methods of a batch that succeeds, variables are bound before
they are read, except in those of documents with a property directly
inside a property. -/
theorem compileBatch_declaredBeforeUse_iff {ds : List Document} {sources : Sources}
    {methods : List Method} (hok : (compileBatch options handler ds sources).2.result = .ok methods)
    {i : Nat} (hd : ds[i]? = some d) (hnone : ∀ h ∈ d.heads, h.identifier = none) :
    ∃ method, methods[i]? = some method
      ∧ (d.named.lines (.compiling options handler (identifyAll ds {}).2 d.controllerText)).map
          Line.stmt = method.body
      ∧ (DeclaredBeforeUse
            (d.named.lines (.compiling options handler (identifyAll ds {}).2 d.controllerText))
          ↔ d.innerProperties = []) := by
  obtain ⟨hsome, method, hmethod, hbody⟩ := map_stmt_lines_of_compileBatch hok hd
  obtain ⟨⟨root, controller⟩, hroot⟩ := Option.isSome_iff_exists.mp hsome
  exact ⟨method, hmethod, hbody, declaredBeforeUse_lines_iff hnone hroot _⟩

/-- A view with an object in a property of an object in a property, and a
property inside a property below an include, where it has no code. -/
def orderedView : Document where
  name := "Main"
  root := some <| .mk { kind := .declaration (some "com.example.Main"), name := "VBox" } [
    .mk { kind := .property .instanceProperty, name := "children" } [
      .mk { kind := .declaration none, name := "Button", fxId := some "save"
            attributes := [⟨"text", "Save", .instanceProperty⟩] } [
        .mk { kind := .property .instanceProperty, name := "graphic" } [
          .leaf { kind := .declaration none, name := "Text" }]],
      .mk { kind := .include "Main.fxml", name := "include" } [
        .mk { kind := .property .instanceProperty, name := "children" } [
          .leaf { kind := .property .instanceProperty, name := "padding" }]]]]

/-- A view with an empty property inside a property. -/
def nestedProperties : Document where
  name := "Main"
  root := some <| .mk { kind := .declaration (some "com.example.Main"), name := "VBox" } [
    .mk { kind := .property .instanceProperty, name := "children" } [
      .leaf { kind := .property .instanceProperty, name := "padding" }]]

theorem compileBatch_declaredBeforeUse_iff_orderedView :
    ∃ methods, (compileBatch {} Handler.methodRef [orderedView] sampleSources).2.result = .ok methods
      ∧ (∀ h ∈ orderedView.heads, h.identifier = none)
      ∧ orderedView.innerProperties = []
      ∧ ∃ method, methods[0]? = some method
        ∧ (orderedView.named.lines (.compiling {} Handler.methodRef
            (identifyAll [orderedView] {}).2 orderedView.controllerText)).map Line.stmt = method.body
        ∧ DeclaredBeforeUse (orderedView.named.lines (.compiling {} Handler.methodRef
            (identifyAll [orderedView] {}).2 orderedView.controllerText)) := by
  have hisOk : (compileBatch {} Handler.methodRef [orderedView] sampleSources).2.result.isOk = true := by
    decide +kernel
  obtain ⟨methods, hok⟩ := exists_ok_of_isOk hisOk
  have hnone : ∀ h ∈ orderedView.heads, h.identifier = none := by decide
  have hinner : orderedView.innerProperties = [] := by decide
  obtain ⟨method, hmethod, hbody, hiff⟩ := compileBatch_declaredBeforeUse_iff hok (i := 0) rfl hnone
  exact ⟨methods, hok, hnone, hinner, method, hmethod, hbody, hiff.mpr hinner⟩

/-- Without names given beforehand and without an `fx:id`, a batch can
succeed with a method that reads a variable no statement binds. -/
theorem unbound_nestedProperties :
    (∀ h ∈ nestedProperties.heads, h.identifier = none)
      ∧ (nestedProperties.heads.filterMap Head.ownFxId?).Nodup
      ∧ ∃ methods method lines,
        (compileBatch {} Handler.methodRef [nestedProperties] sampleSources).2.result = .ok methods
          ∧ methods[0]? = some method
          ∧ lines = nestedProperties.named.lines (.compiling {} Handler.methodRef
              (identifyAll [nestedProperties] {}).2 nestedProperties.controllerText)
          ∧ lines.map Line.stmt = method.body
          ∧ ¬ DeclaredBeforeUse lines := by
  have hisOk : (compileBatch {} Handler.methodRef [nestedProperties] sampleSources).2.result.isOk
      = true := by decide +kernel
  obtain ⟨methods, hok⟩ := exists_ok_of_isOk hisOk
  obtain ⟨-, method, hmethod, hbody⟩ := map_stmt_lines_of_compileBatch hok (i := 0) rfl
  exact ⟨by decide, by decide, methods, method, _, hok, hmethod, rfl, hbody, by decide +kernel⟩

end Document

end FxmlCodegen
