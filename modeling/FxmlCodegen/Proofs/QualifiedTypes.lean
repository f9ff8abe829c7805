import FxmlCodegen.Proofs.CapturedVariables
import FxmlCodegen.Proofs.CompileInputs
import FxmlCodegen.Proofs.GraphBuilt
import FxmlCodegen.Proofs.QualifiedNames

/-!
# Code for qualified types

What packages in front of types change in a method. The statements of the
second document should be those of the first with the types of the second
in place of its own (`Java.Stmt.retypeAll`): constructions are met in
document order, so each takes up the type of its element.

That is so as long as constructors are given the same
(`Element.map_stmt_lines_iff`). `Insets` and an `Image` with a `url` are
known by their simple names alone, and with a package in front their
attributes become statements like those of any other object:
`Document.padded_not_compiledLike` shows the sides of `Insets` lost to the
constructor. `Document.compile_qualified_iff` says that no other packages
matter.
-/

namespace FxmlCodegen

open Java (Expr Line Method Sources Stmt TypeName)

/-! ## Constructor arguments -/

/-- The constructor of the object is given attributes: the sides of
`Insets`, the stream of an `Image`. -/
def Head.passesAttributes (h : Head) : Bool :=
  h.name == "Insets" || (h.name == "Image" && h.attributes.any (·.name == "url"))

/-- A type whose constructor is given attributes has got no package. -/
def Head.KeepsArguments (h h' : Head) : Prop := h.passesAttributes = true → h'.name = h.name

namespace Head

theorem passesAttributes_qualified (h : Head) (package : String) :
    { h with name := package ++ "." ++ h.name }.passesAttributes = false := by
  have hne : ∀ type : String, '.' ∉ type.toList →
      (package ++ "." ++ h.name == type) = false := by
    intro type hsimple
    refine beq_false_of_ne fun heq => hsimple ?_
    rw [← heq]
    simp
  rw [passesAttributes, hne "Insets" (by decide), hne "Image" (by decide)]
  rfl

theorem objectArgs_eq_nil_iff (env : Env) (h : Head) :
    h.objectArgs env = [] ↔ h.passesAttributes = false := by
  unfold objectArgs passesAttributes urlStreams
  by_cases hinsets : h.name = "Insets"
  · simp [hinsets]
  · by_cases himage : h.name = "Image"
    · simp [himage]
    · simp [hinsets, himage]

/-- Without attributes for the constructor each attribute is a statement. -/
theorem attributeStmts_eq (env : Env) {h : Head} (hpasses : h.passesAttributes = false)
    (var : String) :
    Emit.attributeStmts env h var = h.attributes.map fun a => (a.emit env var).toStmt := by
  rw [passesAttributes, Bool.or_eq_false_iff] at hpasses
  obtain ⟨hinsets, himage⟩ := hpasses
  unfold Emit.attributeStmts Emit.attributeCodes
  rw [hinsets, if_neg Bool.false_ne_true]
  split
  · rename_i hname
    rw [hname, Bool.true_and, List.any_eq_false] at himage
    have hstatement : ∀ a ∈ h.attributes,
        (a.emit env var).statement? = some (a.emit env var).toStmt := by
      intro a ha
      rcases a.emit_cases env var with ⟨hurl, -⟩ | ⟨-, _, _, stmt, -, hemit, -⟩
      · exact absurd (beq_iff_eq.mpr hurl) (himage a ha)
      · rw [hemit]
        rfl
    rw [List.filterMap_map, ← List.filterMap_eq_map]
    exact List.filterMap_congr hstatement
  · rw [List.map_map]
    rfl

end Head

/-! ## Other types in the same statements -/

namespace Java.Stmt

/-- The construction with another type. -/
def retype (type : TypeName) : Stmt → Stmt
  | .declare _ var (.new _ args) => .declare type var (.new type args)
  | .declare _ var init => .declare type var init
  | .expr (.assign target (.new _ args)) => .expr (.assign target (.new type args))
  | stmt => stmt

/-- The statements with these types, in order, in the constructions among
them. -/
def retypeAll : List TypeName → List Stmt → List Stmt
  | _, [] => []
  | [], stmts => stmts
  | type :: types, stmt :: stmts =>
    if stmt.isConstruction then stmt.retype type :: retypeAll types stmts
    else stmt :: retypeAll (type :: types) stmts

/-- What the constructor is given. -/
def arguments : Stmt → List Expr
  | .declare _ _ (.new _ args) => args
  | .expr (.assign _ (.new _ args)) => args
  | _ => []

theorem isConstruction_retype (type : TypeName) (stmt : Stmt) :
    (stmt.retype type).isConstruction = stmt.isConstruction := by
  unfold retype
  split <;> rfl

theorem arguments_retype (type : TypeName) (stmt : Stmt) :
    (stmt.retype type).arguments = stmt.arguments := by
  unfold retype
  split
  · rfl
  · rename_i hnew
    unfold arguments
    split <;> simp_all
  · rfl
  · rfl

theorem retypeAll_nil (stmts : List Stmt) : retypeAll [] stmts = stmts := by
  cases stmts <;> rfl

theorem retypeAll_cons (type : TypeName) (types : List TypeName) {stmt : Stmt}
    (hstmt : stmt.isConstruction = true) (stmts : List Stmt) :
    retypeAll (type :: types) (stmt :: stmts) = stmt.retype type :: retypeAll types stmts := by
  rw [retypeAll, if_pos hstmt]

theorem retypeAll_cons_of_not (types : List TypeName) {stmt : Stmt}
    (hstmt : stmt.isConstruction = false) (stmts : List Stmt) :
    retypeAll types (stmt :: stmts) = stmt :: retypeAll types stmts := by
  cases types with
  | nil => rw [retypeAll_nil, retypeAll_nil]
  | cons type types => rw [retypeAll, if_neg (Bool.eq_false_iff.mp hstmt)]

/-- Types are taken up by the statements in front, as many as these
construct. -/
theorem retypeAll_append {types types' : List TypeName} {stmts stmts' : List Stmt}
    (hlength : (stmts.filter isConstruction).length = types.length) :
    retypeAll (types ++ types') (stmts ++ stmts') = retypeAll types stmts ++ retypeAll types' stmts' := by
  induction stmts generalizing types with
  | nil =>
      rw [List.length_eq_zero_iff.mp hlength.symm]
      rfl
  | cons stmt stmts ih =>
      cases hstmt : stmt.isConstruction with
      | true =>
          rw [List.filter_cons_of_pos hstmt] at hlength
          cases types with
          | nil => cases hlength
          | cons type types =>
              rw [List.cons_append, List.cons_append, retypeAll_cons _ _ hstmt,
                retypeAll_cons _ _ hstmt, ih (Nat.succ.inj hlength), List.cons_append]
      | false =>
          rw [List.filter_cons_of_neg (Bool.eq_false_iff.mp hstmt)] at hlength
          rw [List.cons_append, retypeAll_cons_of_not _ hstmt, retypeAll_cons_of_not _ hstmt,
            ih hlength, List.cons_append]

theorem retypeAll_append_of_none {stmts : List Stmt}
    (hnone : ∀ stmt ∈ stmts, stmt.isConstruction = false) (types : List TypeName)
    (stmts' : List Stmt) : retypeAll types (stmts ++ stmts') = stmts ++ retypeAll types stmts' := by
  have hlength : (stmts.filter isConstruction).length = ([] : List TypeName).length := by
    rw [filter_isConstruction_eq_nil hnone]
    rfl
  have happend := @retypeAll_append [] types stmts stmts' hlength
  rwa [retypeAll_nil] at happend

theorem map_arguments_retypeAll (types : List TypeName) (stmts : List Stmt) :
    ((retypeAll types stmts).filter isConstruction).map arguments
      = (stmts.filter isConstruction).map arguments := by
  induction stmts generalizing types with
  | nil => cases types <;> rfl
  | cons stmt stmts ih =>
      cases types with
      | nil => rfl
      | cons type types =>
          rw [retypeAll]
          split
          · rename_i hstmt
            rw [List.filter_cons_of_pos ((isConstruction_retype type stmt).trans hstmt),
              List.filter_cons_of_pos hstmt, List.map_cons, List.map_cons, ih, arguments_retype]
          · rename_i hstmt
            rw [List.filter_cons_of_neg hstmt, List.filter_cons_of_neg hstmt, ih]

end Java.Stmt

/-! ## Openings -/

/-- The type of the object of an element, where includes find these types. -/
def Head.objectType (factory : String → Option TypeName) (h : Head) : TypeName :=
  match h.source? with
  | some source => (factory source).getD ""
  | none => h.name

theorem Head.arguments_opening (env : Env) {h : Head} (hsource : h.source? = none) :
    (h.opening env).arguments = h.objectArgs env := by
  rw [← Emit.constructorArgs_eq env h h.identifierText]
  unfold Head.opening Emit.construction
  rw [hsource]
  simp only
  split <;> rfl

section Lines

variable (options : Options) (handler : Handler) {s s' : Scope}

namespace Head.Qualifies

variable {h h' : Head}

theorem eq_or_passesAttributes (hq : h.Qualifies h') :
    h' = h ∨ h.source? = none ∧ h'.passesAttributes = false := by
  cases hq with
  | keep => exact Or.inl rfl
  | package package hkind hsimple =>
      exact Or.inr ⟨by rw [Head.source?, hkind], h.passesAttributes_qualified package⟩

/-- A head that keeps its arguments has kept its type, or its constructor
was given no attributes and is given none. -/
theorem keepsArguments_cases (hq : h.Qualifies h') (hkeeps : h.KeepsArguments h') :
    h' = h ∨ h.passesAttributes = false ∧ h'.passesAttributes = false := by
  rcases hq.eq_or_passesAttributes with heq | ⟨-, hpasses'⟩
  · exact Or.inl heq
  · cases hpasses : h.passesAttributes with
    | false => exact Or.inr ⟨rfl, hpasses'⟩
    | true => exact Or.inl (by rw [hq.eq, hkeeps hpasses])

theorem constructorArgs (hq : h.Qualifies h') (hkeeps : h.KeepsArguments h')
    (hactive : s.active = s'.active) (var : String) :
    Emit.constructorArgs ⟨options, handler, s'⟩ h' var
      = Emit.constructorArgs ⟨options, handler, s⟩ h var := by
  rcases hq.keepsArguments_cases hkeeps with rfl | ⟨hpasses, hpasses'⟩
  · simp only [Emit.constructorArgs, Emit.attributeCodes_congr options handler hactive]
  · rw [Emit.constructorArgs_eq, Emit.constructorArgs_eq, (objectArgs_eq_nil_iff _ h).mpr hpasses,
      (objectArgs_eq_nil_iff _ h').mpr hpasses']

theorem attributeStmts (hq : h.Qualifies h') (hkeeps : h.KeepsArguments h')
    (hactive : s.active = s'.active) (var : String) :
    Emit.attributeStmts ⟨options, handler, s'⟩ h' var
      = Emit.attributeStmts ⟨options, handler, s⟩ h var := by
  rcases hq.keepsArguments_cases hkeeps with rfl | ⟨hpasses, hpasses'⟩
  · simp only [Emit.attributeStmts, Emit.attributeCodes_congr options handler hactive]
  · rw [attributeStmts_eq _ hpasses, attributeStmts_eq _ hpasses', hq.attributes]
    simp only [Attribute.emit_congr options handler hactive]

theorem opening (hq : h.Qualifies h') (hkeeps : h.KeepsArguments h')
    (hactive : s.active = s'.active) (hkeys : s.SameKeys s') :
    h'.opening ⟨options, handler, s'⟩
      = (h.opening ⟨options, handler, s⟩).retype (h'.objectType s'.factories.get?) := by
  unfold Head.opening Head.declaration Head.objectType
  rw [hq.source?]
  cases h.source? with
  | some source =>
      simp only [hkeys.controllers, hq.identifierText]
      rfl
  | none =>
      simp only [Emit.construction, hq.constructorArgs options handler hkeeps hactive, hq.fxId,
        hq.identifierText]
      split <;> rfl

/-- A constructor that is given the same had not been given attributes
that it is given no longer. -/
theorem keepsArguments (hq : h.Qualifies h')
    (hargs : (h'.opening ⟨options, handler, s'⟩).arguments
      = (h.opening ⟨options, handler, s⟩).arguments) : h.KeepsArguments h' := by
  intro hpasses
  rcases hq.eq_or_passesAttributes with rfl | ⟨hsource, hpasses'⟩
  · rfl
  · rw [arguments_opening _ (hq.source?.trans hsource), arguments_opening _ hsource,
      (objectArgs_eq_nil_iff _ h').mpr hpasses'] at hargs
    rw [(objectArgs_eq_nil_iff _ h).mp hargs.symm] at hpasses
    cases hpasses

end Head.Qualifies

theorem keepsArguments_of_map {hs hs' : List Head} (hq : List.Forall₂ Head.Qualifies hs hs')
    (hargs : hs'.map (Stmt.arguments ∘ Head.opening ⟨options, handler, s'⟩)
      = hs.map (Stmt.arguments ∘ Head.opening ⟨options, handler, s⟩)) :
    List.Forall₂ Head.KeepsArguments hs hs' := by
  induction hq with
  | nil => exact .nil
  | cons head _ ih =>
      rw [List.map_cons, List.map_cons, List.cons.injEq] at hargs
      exact .cons (head.keepsArguments options handler hargs.1) (ih hargs.2)

/-! ## Lines -/

theorem forall₂_append_iff {R : Head → Head → Prop} {hs hs' gs gs' : List Head}
    (hlength : hs.length = hs'.length) :
    List.Forall₂ R (hs ++ gs) (hs' ++ gs') ↔ List.Forall₂ R hs hs' ∧ List.Forall₂ R gs gs' := by
  constructor
  · intro hall
    have hfront := List.forall₂_take_append _ _ _ hall
    have hback := List.forall₂_drop_append _ _ _ hall
    rw [← hlength, List.take_left] at hfront
    rw [← hlength, List.drop_left] at hback
    exact ⟨hfront, hback⟩
  · exact fun hall => List.rel_append hall.1 hall.2

namespace Element

variable {h h' : Head} {cs cs' es es' : List Element}

/-- The types of what is constructed. -/
def typesAll (factory : String → Option TypeName) (es : List Element) : List TypeName :=
  (constructedAll es).map (Head.objectType factory)

theorem length_filter_linesAll (hq : QualifiesAll es es') (env : Env) (owner : String)
    (factory : String → Option TypeName) :
    (((linesAll env owner es).map Line.stmt).filter Stmt.isConstruction).length
      = (typesAll factory es').length := by
  rw [filter_isConstruction_linesAll, List.length_map, typesAll, List.length_map,
    hq.constructedAll.length_eq]

/-- The lines of the second elements are those of the first with the types
of the second, for the children of an object and for those of a property. -/
structure RetypedLines (options : Options) (handler : Handler) (s s' : Scope)
    (es es' : List Element) : Prop where
  all : ∀ owner, (linesAll ⟨options, handler, s'⟩ owner es').map Line.stmt
    = Stmt.retypeAll (typesAll s'.factories.get? es')
      ((linesAll ⟨options, handler, s⟩ owner es).map Line.stmt)
  wired : ∀ owner wire, (∀ var, (wire var).isConstruction = false) →
    (linesWired ⟨options, handler, s'⟩ owner wire es').map Line.stmt
      = Stmt.retypeAll (typesAll s'.factories.get? es')
        ((linesWired ⟨options, handler, s⟩ owner wire es).map Line.stmt)

theorem map_stmt_lines_declaration {controller : Option String}
    (hkind : h.kind = .declaration controller) (head : h.Qualifies h')
    (inside : QualifiesAll cs cs') (hkeeps : h.KeepsArguments h') (hactive : s.active = s'.active)
    (hkeys : s.SameKeys s') (hcs : RetypedLines options handler s s' cs cs') (place : Place) :
    ((mk h' cs').lines ⟨options, handler, s'⟩ place).map Line.stmt
      = Stmt.retypeAll (h'.objectType s'.factories.get? :: typesAll s'.factories.get? cs')
        (((mk h cs).lines ⟨options, handler, s⟩ place).map Line.stmt) := by
  have hsource : h.source? = none := by rw [Head.source?, hkind]
  have hopening : ∀ env : Env, Emit.construction env h h.identifierText = h.opening env := by
    intro env
    rw [Head.opening, hsource]
  have hopening' : ∀ env : Env, Emit.construction env h' h'.identifierText = h'.opening env := by
    intro env
    rw [Head.opening, head.source?, hsource]
  have htrailer : Emit.trailer ⟨options, handler, s'⟩ h.identifierText place
      = Emit.trailer ⟨options, handler, s⟩ h.identifierText place := by
    cases place <;> rfl
  have hchildren := @Stmt.retypeAll_append (typesAll s'.factories.get? cs') [] _
    (Emit.trailer ⟨options, handler, s⟩ h.identifierText place)
    (length_filter_linesAll inside ⟨options, handler, s⟩ h.identifierText s'.factories.get?)
  rw [List.append_nil, Stmt.retypeAll_nil] at hchildren
  simp only [lines, head.kind, hkind, List.map_append, Line.map_stmt_plain, hopening, hopening']
  rw [head.identifierText, hcs.all, htrailer, head.opening options handler hkeeps hactive hkeys,
    head.attributeStmts options handler hkeeps hactive, List.cons_append, List.cons_append,
    Stmt.retypeAll_cons _ _ (h.isConstruction_opening _),
    Stmt.retypeAll_append_of_none (Emit.isConstruction_attributeStmts _ h _), hchildren]

theorem map_stmt_lines_include {source : String} (hkind : h.kind = .include source)
    (head : h.Qualifies h') (hactive : s.active = s'.active) (hkeys : s.SameKeys s')
    (place : Place) :
    ((mk h' cs').lines ⟨options, handler, s'⟩ place).map Line.stmt
      = Stmt.retypeAll [h'.objectType s'.factories.get?]
        (((mk h cs).lines ⟨options, handler, s⟩ place).map Line.stmt) := by
  have hsource : h.source? = some source := Head.source?_eq_some.mpr hkind
  have htype : h'.objectType s'.factories.get? = (s'.factories.get? source).getD "" := by
    rw [Head.objectType, head.source?, hsource]
  simp only [lines, head.kind, hkind, Line.map_stmt_plain, Emit.includeCode]
  rw [Stmt.retypeAll_cons _ _ rfl, Stmt.retypeAll_nil, htype, head.identifierText, head.attributes,
    hkeys.controllers]
  simp only [Attribute.emit_congr options handler hactive]
  rfl

/-- One element, by its kind. -/
theorem map_stmt_lines_mk (head : h.Qualifies h') (inside : QualifiesAll cs cs')
    (hkeeps : List.Forall₂ Head.KeepsArguments (mk h cs).constructed (mk h' cs').constructed)
    (hactive : s.active = s'.active) (hkeys : s.SameKeys s')
    (hcs : List.Forall₂ Head.KeepsArguments (constructedAll cs) (constructedAll cs') →
      RetypedLines options handler s s' cs cs') (place : Place) :
    ((mk h' cs').lines ⟨options, handler, s'⟩ place).map Line.stmt
      = Stmt.retypeAll ((mk h' cs').constructed.map (Head.objectType s'.factories.get?))
        (((mk h cs).lines ⟨options, handler, s⟩ place).map Line.stmt) := by
  simp only [constructed, head.kind] at hkeeps ⊢
  cases hkind : h.kind with
  | declaration controller =>
      simp only [hkind] at hkeeps
      cases hkeeps with
      | cons hhead hinside =>
          exact map_stmt_lines_declaration options handler hkind head inside hhead hactive hkeys
            (hcs hinside) place
  | «include» source => exact map_stmt_lines_include options handler hkind head hactive hkeys place
  | property kind =>
      simp only [hkind] at hkeeps
      have hname : h'.name = h.name := head.name_of_kind fun c => by simp [hkind]
      simp only [lines, head.kind, hkind, hname, head.identifierText]
      exact (hcs hkeeps).wired _ _ (Emit.isConstruction_wiring _ kind h.name)
  | _ => simp only [lines, head.kind, hkind, List.map_nil, Stmt.retypeAll]

theorem QualifiesAll.retypedLines (hq : QualifiesAll es es')
    (hkeeps : List.Forall₂ Head.KeepsArguments (Element.constructedAll es)
      (Element.constructedAll es'))
    (hactive : s.active = s'.active) (hkeys : s.SameKeys s') :
    RetypedLines options handler s s' es es' := by
  induction hq with
  | nil => exact ⟨fun _ => rfl, fun _ _ _ => rfl⟩
  | @cons h h' cs cs' es es' head inside after ihinside ihafter =>
      have hlength := (inside.constructed head).length_eq
      rw [Element.constructedAll, Element.constructedAll, forall₂_append_iff hlength] at hkeeps
      have hlines := map_stmt_lines_mk options handler head inside hkeeps.1 hactive hkeys ihinside
      have hes := ihafter hkeeps.2
      -- The lines of the first element take up its own types, one each for
      -- what is constructed in it, and leave the others to the rest.
      have htypes : typesAll s'.factories.get? (mk h' cs' :: es')
          = (mk h' cs').constructed.map (Head.objectType s'.factories.get?)
            ++ typesAll s'.factories.get? es' := List.map_append
      have hcount : ∀ place,
          ((((mk h cs).lines ⟨options, handler, s⟩ place).map Line.stmt).filter
            Stmt.isConstruction).length
          = ((mk h' cs').constructed.map (Head.objectType s'.factories.get?)).length := by
        intro place
        rw [filter_isConstruction_lines, List.length_map, List.length_map, hlength]
      constructor
      · intro owner
        rw [linesAll, linesAll, List.map_append, List.map_append, htypes,
          Stmt.retypeAll_append (hcount _), hlines, hes.all]
      · intro owner wire hwire
        have hneeds : (mk h' cs').head.needsName = (mk h cs).head.needsName := by
          simp only [Element.head, Head.needsName, Head.isObject, Head.isProperty, head.kind]
        have hvar : (mk h' cs').head.identifierText = (mk h cs).head.identifierText :=
          head.identifierText
        have hwired : ∀ stmt ∈ (if (mk h cs).head.needsName then
            [⟨wire (mk h cs).head.identifierText, true⟩] else [] : List Line).map Line.stmt,
            stmt.isConstruction = false := by
          split <;> simp [hwire]
        simp only [linesWired, List.map_append, htypes, hneeds, hvar]
        rw [Stmt.retypeAll_append (hcount _), hlines, Stmt.retypeAll_append_of_none hwired,
          hes.wired owner wire hwire]

/-- Lines are the same but for the types exactly if no constructor has
lost its attributes. -/
theorem map_stmt_lines_iff (head : h.Qualifies h') (inside : QualifiesAll cs cs')
    (hactive : s.active = s'.active) (hkeys : s.SameKeys s') (place : Place) :
    ((mk h' cs').lines ⟨options, handler, s'⟩ place).map Line.stmt
        = Stmt.retypeAll ((mk h' cs').constructed.map (Head.objectType s'.factories.get?))
          (((mk h cs).lines ⟨options, handler, s⟩ place).map Line.stmt)
      ↔ List.Forall₂ Head.KeepsArguments (mk h cs).constructed (mk h' cs').constructed := by
  constructor
  · -- Other types leave the arguments alone, so these can be compared
    -- although the statements of attributes may differ in number.
    intro heq
    have hargs := congrArg (fun stmts => (stmts.filter Stmt.isConstruction).map Stmt.arguments) heq
    simp only [Stmt.map_arguments_retypeAll, filter_isConstruction_lines, List.map_map] at hargs
    exact keepsArguments_of_map options handler (inside.constructed head) hargs
  · intro hkeeps
    exact map_stmt_lines_mk options handler head inside hkeeps hactive hkeys
      (fun hcs => inside.retypedLines options handler hcs hactive hkeys) place

end Element

end Lines

/-! ## Documents -/

namespace Document

/-- The types of what is constructed in a document of a batch. An include
has the root type of the last document with its key, or else the one that
was known before. -/
def types (ds : List Document) (s : Scope) (d : Document) : List TypeName :=
  d.constructed.map (Head.objectType fun key =>
    (lastWith? rootType? key ds).or (s.factories.get? key))

/-- The second result is that of a document which has these types and is
compiled like the first: to the same method but for the types, or to a
failure of the same kind. -/
inductive CompiledLike (rootType : Option TypeName) (types : List TypeName) :
    (result result' : Except Failure Method) → Prop
  | done {type : TypeName} (htype : rootType = some type) (method : Method) :
      CompiledLike rootType types (.ok method)
        (.ok { method with returnType := type, body := Stmt.retypeAll types method.body })
  | failed {failure failure' : Failure} (hcode : failure'.code = failure.code) :
      CompiledLike rootType types (.error failure) (.error failure')

variable {options : Options} {handler : Handler} {s s' : Scope} {d d' : Document}
  {method method' : Method}

theorem CompiledLike.body_eq {rootType : Option TypeName} {types : List TypeName}
    (hlike : CompiledLike rootType types (.ok method) (.ok method')) :
    method'.body = Stmt.retypeAll types method.body := by
  cases hlike
  rfl

theorem constructed_of_rootObject? {root : Element} {controller : Option String}
    (hroot : d.rootObject? = some (root, controller)) : d.constructed = root.constructed := by
  rw [constructed, (rootObject?_eq_some hroot).1]

/-- Methods are the same but for the types exactly if no constructor has
lost its attributes. -/
theorem Qualifies.body_iff (hq : d.Qualifies d') (hkeys : s.SameKeys s')
    (hmakes : d.Makes options handler s method) (hmakes' : d'.Makes options handler s' method') :
    method'.body
        = Stmt.retypeAll (d'.constructed.map (Head.objectType s'.factories.get?)) method.body
      ↔ List.Forall₂ Head.KeepsArguments d.constructed d'.constructed := by
  obtain ⟨root, controller, stmts, hroot, hbody, rfl⟩ := hmakes
  obtain ⟨root', controller', stmts', hroot', hbody', rfl⟩ := hmakes'
  obtain ⟨hnone, -⟩ | ⟨h, h', cs, cs', c, hsome, hsome', head, inside⟩ := hq.rootObject?_cases
  · rw [hnone] at hroot
    cases hroot
  · rw [constructed_of_rootObject? hroot, constructed_of_rootObject? hroot']
    have hobject := (rootObject?_eq_some hroot).2
    have hobject' := (rootObject?_eq_some hroot').2
    rw [hsome] at hroot
    rw [hsome'] at hroot'
    cases hroot
    cases hroot'
    have hlines := body_eq_lines (by rw [Head.isObject, hobject]) hbody
    have hlines' := body_eq_lines (by rw [Head.isObject, hobject']) hbody'
    have hcompiling : Scope.SameKeys { s.clearNames with active := some controller }
        { s'.clearNames with active := some controller } := ⟨hkeys.controllers, hkeys.factories⟩
    show stmts' = Stmt.retypeAll _ stmts ↔ _
    rw [hlines, hlines']
    refine Element.map_stmt_lines_iff options handler head inside ?_ hcompiling .root
    rfl

/-- Methods of one batch of options differ in their types and bodies only. -/
theorem Makes.eq_with (hmakes : d.Makes options handler s method)
    (hmakes' : d'.Makes options handler s' method') :
    method' = { method with returnType := method'.returnType, body := method'.body } := by
  obtain ⟨root, controller, stmts, -, -, rfl⟩ := hmakes
  obtain ⟨root', controller', stmts', -, -, rfl⟩ := hmakes'
  rfl

theorem Qualifies.compiledLike_iff (hq : d.Qualifies d') (hkeys : s.SameKeys s')
    (sources : Sources) :
    CompiledLike d'.rootType? (d'.constructed.map (Head.objectType s'.factories.get?))
        (d.compile options handler s sources).result (d'.compile options handler s' sources).result
      ↔ (∃ failure, (d.compile options handler s sources).result = .error failure)
        ∨ List.Forall₂ Head.KeepsArguments d.constructed d'.constructed := by
  have hcode := hq.sameCode_report hkeys sources
  rw [← failure?_compile options handler, ← failure?_compile options handler] at hcode
  cases hresult : (d.compile options handler s sources).result with
  | error failure =>
      rw [hresult] at hcode
      obtain ⟨failure', hfailure', hcode⟩ := Option.map_eq_some_iff.mp hcode
      rw [failure?_eq_some.mp hfailure']
      exact iff_of_true (.failed hcode) (Or.inl ⟨failure, rfl⟩)
  | ok method =>
      rw [hresult] at hcode
      obtain ⟨method', hresult'⟩ := failure?_eq_none.mp (Option.map_eq_none_iff.mp hcode)
      have hmakes := (compile_result_eq_ok.mp hresult).1
      have hmakes' := (compile_result_eq_ok.mp hresult').1
      rw [hresult']
      constructor
      · intro hlike
        exact Or.inr ((hq.body_iff hkeys hmakes hmakes').mp hlike.body_eq)
      · rintro (⟨failure, hfailure⟩ | hkeeps)
        · cases hfailure
        · have hbody := (hq.body_iff hkeys hmakes hmakes').mpr hkeeps
          rw [hmakes.eq_with hmakes', hbody]
          exact .done hmakes'.rootType? method

/-- Names play no part in what a constructor is given. -/
theorem forall₂_keepsArguments_named :
    List.Forall₂ Head.KeepsArguments d.named.constructed d'.named.constructed
      ↔ List.Forall₂ Head.KeepsArguments d.constructed d'.constructed := by
  have hunnamed : ∀ hs hs' : List Head,
      List.Forall₂ Head.KeepsArguments (hs.map Head.unnamed) (hs'.map Head.unnamed)
        ↔ List.Forall₂ Head.KeepsArguments hs hs' := fun hs hs' => by
    rw [List.forall₂_map_left_iff, List.forall₂_map_right_iff]
    rfl
  rw [← hunnamed, map_unnamed_constructed, map_unnamed_constructed, hunnamed]

/-- Nor in the types. -/
theorem types_named (ds : List Document) (s : Scope) (d : Document) :
    d.named.constructed.map (Head.objectType (identifyAll ds s).2.factories.get?)
      = d.types ds s := by
  have hfactories : (identifyAll ds s).2.factories.get? = fun key =>
      (lastWith? rootType? key ds).or (s.factories.get? key) :=
    funext (settled_identifyAll ds s).factories
  have hunnamed : ∀ (factory : String → Option TypeName) (hs : List Head),
      (hs.map Head.unnamed).map (Head.objectType factory) = hs.map (Head.objectType factory) :=
    fun factory hs => List.map_map
  rw [hfactories, types, ← hunnamed, map_unnamed_constructed, hunnamed]

/-- Packages in front of types do not change the identifiers that naming
gives, nor whether and how compiling fails. They change nothing in the
methods but these types, exactly if none of them stands in front of a type
whose constructor is given attributes. -/
theorem compile_qualified_iff {ds ds' : List Document} (hq : List.Forall₂ Qualifies ds ds')
    {i : Nat} (hd : ds[i]? = some d) (hd' : ds'[i]? = some d') (options : Options)
    (handler : Handler) (s : Scope) (sources : Sources) :
    ∃ n n', (identifyAll ds s).1[i]? = some n ∧ (identifyAll ds' s).1[i]? = some n'
      ∧ n'.heads.map (·.identifier) = n.heads.map (·.identifier)
      ∧ SameCode (failure? (n.compile options handler (identifyAll ds s).2 sources).result)
        (failure? (n'.compile options handler (identifyAll ds' s).2 sources).result)
      ∧ (CompiledLike d'.rootType? (d'.types ds' s)
          (n.compile options handler (identifyAll ds s).2 sources).result
          (n'.compile options handler (identifyAll ds' s).2 sources).result
        ↔ (∃ failure, (n.compile options handler (identifyAll ds s).2 sources).result
              = .error failure)
          ∨ List.Forall₂ Head.KeepsArguments d.constructed d'.constructed) := by
  have hdocument : d.Qualifies d' := by
    obtain ⟨hi, rfl⟩ := List.getElem?_eq_some_iff.mp hd
    obtain ⟨hi', rfl⟩ := List.getElem?_eq_some_iff.mp hd'
    exact hq.get hi hi'
  have hnamed := hdocument.named
  have hkeys : (identifyAll ds s).2.SameKeys (identifyAll ds' s).2 :=
    sameKeys_identifyAll hq ⟨fun _ => rfl, fun _ => rfl⟩
  refine ⟨d.named, d'.named, ?_, ?_, map_eq_of_qualifies (fun head => head.identifier) hnamed.heads,
    ?_, ?_⟩
  · rw [identifyAll_fst, List.getElem?_map, hd, Option.map_some]
  · rw [identifyAll_fst, List.getElem?_map, hd', Option.map_some]
  · rw [failure?_compile, failure?_compile]
    exact hnamed.sameCode_report hkeys sources
  · rw [← rootType?_named d', ← types_named, ← forall₂_keepsArguments_named]
    exact hnamed.compiledLike_iff hkeys sources

/-- A view with a padding of this type, and what else is inside it. -/
def padded (insets : String) (inside : List Element) : Document where
  name := "Main"
  root := some <| .mk { kind := .declaration (some "com.example.Main"), name := "VBox" } <|
    .mk { kind := .property .instanceProperty, name := "padding" }
      [.leaf { kind := .declaration none, name := insets
               attributes := [⟨"top", "5.0", .instanceProperty⟩] }]
    :: inside

/-- A view that shows an image and a panel, of these types. -/
def framed (image panel : String) : List Document := [
  padded "Insets" [
    .leaf { kind := .declaration none, name := image
            attributes := [⟨"smooth", "true", .instanceProperty⟩] },
    .leaf { kind := .include "Panel.fxml", name := "include" }],
  { name := "Panel"
    root := some (.leaf { kind := .declaration (some "com.example.Panel"), name := panel }) }]

def framedSources : Sources := (Sources.declare {} "com.example.Main").declare "com.example.Panel"

theorem compile_qualified_iff_framed :
    List.Forall₂ Qualifies (framed "Image" "Pane")
        (framed "javafx.scene.image.Image" "javafx.scene.layout.Pane")
      ∧ ∃ d d' n n', (framed "Image" "Pane")[0]? = some d
        ∧ (framed "javafx.scene.image.Image" "javafx.scene.layout.Pane")[0]? = some d'
        ∧ d'.types (framed "javafx.scene.image.Image" "javafx.scene.layout.Pane") {}
          = ["VBox", "Insets", "javafx.scene.image.Image", "javafx.scene.layout.Pane"]
        ∧ (identifyAll (framed "Image" "Pane") {}).1[0]? = some n
        ∧ (identifyAll (framed "javafx.scene.image.Image" "javafx.scene.layout.Pane") {}).1[0]?
          = some n'
        ∧ n'.heads.map (·.identifier) = n.heads.map (·.identifier)
        ∧ CompiledLike d'.rootType?
          (d'.types (framed "javafx.scene.image.Image" "javafx.scene.layout.Pane") {})
          (n.compile {} Handler.methodRef (identifyAll (framed "Image" "Pane") {}).2
            framedSources).result
          (n'.compile {} Handler.methodRef
            (identifyAll (framed "javafx.scene.image.Image" "javafx.scene.layout.Pane") {}).2
            framedSources).result := by
  have hframed : List.Forall₂ Qualifies (framed "Image" "Pane")
      (framed "javafx.scene.image.Image" "javafx.scene.layout.Pane") := by
    refine .cons ⟨rfl, rfl, .cons (.keep _) (.cons (.keep _) (.cons (.keep _) .nil .nil) ?_) .nil⟩
      (.cons ⟨rfl, rfl, ?_⟩ .nil)
    · exact .cons (.package "javafx.scene.image" rfl (by decide)) .nil (.cons (.keep _) .nil .nil)
    · exact .cons (.package "javafx.scene.layout" rfl (by decide)) .nil .nil
  obtain ⟨n, n', hn, hn', hids, -, hiff⟩ := compile_qualified_iff hframed (i := 0) rfl rfl {}
    Handler.methodRef {} framedSources
  refine ⟨hframed, _, _, n, n', rfl, rfl, by decide +kernel, hn, hn', hids, hiff.mpr (Or.inr ?_)⟩
  exact .cons (fun _ => rfl) (.cons (fun _ => rfl)
    (.cons (fun hpasses => absurd hpasses (by decide)) (.cons (fun _ => rfl) .nil)))

/-- The constructor of `Insets` is no longer given the sides once the type
has its package. -/
theorem padded_not_compiledLike :
    (padded "Insets" []).Qualifies (padded "javafx.geometry.Insets" [])
      ∧ ∃ method method',
        (compileBatch {} Handler.methodRef [padded "Insets" []] framedSources).2.result
            = .ok [method]
        ∧ (compileBatch {} Handler.methodRef [padded "javafx.geometry.Insets" []]
            framedSources).2.result = .ok [method']
        ∧ method.body.map Stmt.render
          = ["VBox vBox = new VBox();", "Insets insets = new Insets(5.0, 0.0, 0.0, 0.0);",
            "vBox.setPadding(insets);", "initialize(null, bundle);", "return vBox;"]
        ∧ method'.body.map Stmt.render
          = ["VBox vBox = new VBox();", "javafx.geometry.Insets insets = new javafx.geometry.Insets();",
            "insets.setTop(5.0);", "vBox.setPadding(insets);", "initialize(null, bundle);",
            "return vBox;"]
        ∧ ¬ CompiledLike (padded "javafx.geometry.Insets" []).rootType?
          ((padded "javafx.geometry.Insets" []).types [padded "javafx.geometry.Insets" []] {})
          (.ok method) (.ok method') := by
  refine ⟨⟨rfl, rfl, .cons (.keep _) (.cons (.keep _)
    (.cons (.package "javafx.geometry" rfl (by decide)) .nil .nil) .nil) .nil⟩, _, _, rfl, rfl,
    by decide +kernel, by decide +kernel, fun hlike => ?_⟩
  have hlength := congrArg List.length hlike.body_eq
  exact absurd hlength (by decide +kernel)

end Document

end FxmlCodegen
