import FxmlCodegen.Java.Codec
import FxmlCodegen.Proofs.Respelling

/-!
# The code model as JSON and back

What is written for an expression, a statement or a part of a source file is
read back as that value, and every spelling of it alike
(`Json.Grammar.SpellAlike`): members in another order and members that the
kind of node does not have, at any depth. A source file without imports is
told from one whose imports are none, and one without a package from one
whose package is the empty text.

Expressions inside an expression are read by recursions of their own, one
for each way to hold them. Each is a combinator of `Json.Fields` with
`Expr.ofJsonBy?` (`exprAt?_eq_required` and those after it), so what holds of
the combinators holds of them.
-/

namespace FxmlCodegen.Java

open Json (Fields Grammar TagForm)

/-! ## Expressions by key -/

theorem exprAt?_eq_required (key : String) : ∀ fields : Fields,
    exprAt? key fields = fields.required key (Expr.ofJsonBy? .nameOrPosition)
  | [] => rfl
  | (k, value) :: fields => by
      rw [exprAt?, exprAt?_eq_required key fields]
      by_cases hkey : key = k
      · simp [Fields.required, Fields.get?, hkey]
      · simp [Fields.required, Fields.get?_cons_of_ne hkey, hkey]

theorem optionalExprAt?_eq_optional (key : String) : ∀ fields : Fields,
    optionalExprAt? key fields = fields.optional key (Expr.ofJsonBy? .nameOrPosition)
  | [] => rfl
  | (k, value) :: fields => by
      have ih := optionalExprAt?_eq_optional key fields
      by_cases hkey : key = k
      · subst hkey
        cases value <;> simp [optionalExprAt?, Fields.optional, Fields.get?]
      · unfold Fields.optional at ih ⊢
        rw [Fields.get?_cons_of_ne hkey, ← ih]
        cases value <;> simp [optionalExprAt?, hkey]

theorem exprsOfJson?_eq_mapM : ∀ items : List Json,
    exprsOfJson? items = items.mapM (Expr.ofJsonBy? .nameOrPosition)
  | [] => rfl
  | item :: items => by
      rw [exprsOfJson?, exprsOfJson?_eq_mapM items, List.mapM_cons]
      rfl

theorem exprsAt?_eq_required (key : String) : ∀ fields : Fields,
    exprsAt? key fields = (fields.required key fun value => do
      (← value.list?).mapM (Expr.ofJsonBy? .nameOrPosition))
  | [] => rfl
  | (k, value) :: fields => by
      have ih := exprsAt?_eq_required key fields
      by_cases hkey : key = k
      · subst hkey
        cases value <;>
          simp [exprsAt?, Fields.required, Fields.get?, Json.list?, exprsOfJson?_eq_mapM]
      · unfold Fields.required at ih ⊢
        rw [Fields.get?_cons_of_ne hkey, ← ih]
        cases value <;> simp [exprsAt?, hkey]

/-! ## The grammar -/

/-- What an object in the JSON of the code model is read as. -/
inductive Part where
  /-- An expression that gives its kind in this form. -/
  | expr (form : TagForm)
  | stmt
  | «import»
  | parameter
  | method
  | file

namespace Part

def Value : Part → Type
  | .expr _ => Expr
  | .stmt => Stmt
  | .import => Import
  | .parameter => Parameter
  | .method => Method
  | .file => SourceFile

def encode : (part : Part) → part.Value → Json
  | .expr _ => Expr.toJson
  | .stmt => Stmt.toJson
  | .import => Import.toJson
  | .parameter => Parameter.toJson
  | .method => Method.toJson
  | .file => SourceFile.toJson

def decode : (part : Part) → Json → Option part.Value
  | .expr form => Expr.ofJsonBy? form
  | .stmt => Stmt.ofJson?
  | .import => Import.ofJson?
  | .parameter => Parameter.ofJson?
  | .method => Method.ofJson?
  | .file => SourceFile.ofJson?

def known : Part → Fields → List String
  | .expr form, fields => fields.taggedKeys form "kind" Expr.kinds Expr.fieldNames
  | .stmt, fields => fields.taggedKeys .name "kind" Stmt.kinds Stmt.fieldNames
  | .import, _ => ["name", "isStatic", "isAsterisk"]
  | .parameter, _ => ["ty", "name"]
  | .method, _ => ["modifier", "returnType", "name", "parameters", "throws", "body"]
  | .file, _ => ["package", "imports", "typeName", "members"]

def inner? : Part → String → Option Part
  | .expr _, "qualifier" => some (.expr .nameOrPosition)
  | .expr _, "scope" => some (.expr .nameOrPosition)
  | .expr _, "args" => some (.expr .nameOrPosition)
  | .expr _, "expr" => some (.expr .nameOrPosition)
  | .expr _, "inner" => some (.expr .nameOrPosition)
  | .expr _, "target" => some (.expr .nameOrPosition)
  | .expr _, "value" => some (.expr .nameOrPosition)
  | .stmt, "expr" => some (.expr .nameOrPosition)
  | .stmt, "init" => some (.expr .nameOrPosition)
  | .method, "parameters" => some .parameter
  | .method, "body" => some .stmt
  | .file, "imports" => some .import
  | .file, "members" => some .method
  | _, _ => none

end Part

/-- How the code model is read from JSON. No member is left out. -/
def grammar : Grammar Part where
  Value := Part.Value
  decode := Part.decode
  known := Part.known
  blank? := fun _ _ => none
  inner? := Part.inner?

/-! ## Members that are alike -/

section Alike

variable {part : Part} {key : String} {fields fields' : Fields}

theorem stringAt?_congr (h : grammar.ValueAlike part key (fields.get? key) (fields'.get? key)) :
    stringAt? key fields' = stringAt? key fields :=
  h.required_scalar rfl Json.isScalar_string?

theorem exprAt?_congr (h : grammar.ValueAlike part key (fields.get? key) (fields'.get? key))
    (hinner : part.inner? key = some (.expr .nameOrPosition)) :
    exprAt? key fields' = exprAt? key fields := by
  rw [exprAt?_eq_required, exprAt?_eq_required]
  exact h.required_node rfl hinner fun _ => rfl

theorem optionalExprAt?_congr (h : grammar.ValueAlike part key (fields.get? key) (fields'.get? key))
    (hinner : part.inner? key = some (.expr .nameOrPosition)) :
    optionalExprAt? key fields' = optionalExprAt? key fields := by
  rw [optionalExprAt?_eq_optional, optionalExprAt?_eq_optional]
  exact h.optional_node nofun hinner fun _ => rfl

theorem exprsAt?_congr (h : grammar.ValueAlike part key (fields.get? key) (fields'.get? key))
    (hinner : part.inner? key = some (.expr .nameOrPosition)) :
    exprsAt? key fields' = exprsAt? key fields := by
  rw [exprsAt?_eq_required, exprsAt?_eq_required]
  exact h.required_list rfl hinner

theorem Expr.ofJsonBy?_congr {form : TagForm}
    (h : ∀ key ∈ grammar.known (.expr form) fields,
      grammar.MemberAlike (.expr form) fields fields' key) :
    Expr.ofJsonBy? form (.obj fields') = Expr.ofJsonBy? form (.obj fields) := by
  rw [Expr.ofJsonBy?, Expr.ofJsonBy?]
  rcases Grammar.tag?_alike h rfl with ⟨hnone, hnone'⟩ | ⟨kind, hkind, hkind', halike⟩
  · rw [hnone, hnone']
    rfl
  · simp only [hkind, hkind', Option.bind_eq_bind, Option.bind_some]
    split
    · rw [stringAt?_congr (halike "name" (by decide))]
    · rw [exprAt?_congr (halike "qualifier" (by decide)) rfl,
        stringAt?_congr (halike "name" (by decide))]
    · rw [exprAt?_congr (halike "scope" (by decide)) rfl,
        stringAt?_congr (halike "field" (by decide))]
    · rw [optionalExprAt?_congr (halike "scope" (by decide)) rfl,
        stringAt?_congr (halike "name" (by decide)), exprsAt?_congr (halike "args" (by decide)) rfl]
    · rw [exprAt?_congr (halike "scope" (by decide)) rfl,
        stringAt?_congr (halike "name" (by decide))]
    · rw [stringAt?_congr (halike "value" (by decide))]
    · rw [stringAt?_congr (halike "value" (by decide))]
    · rfl
    · rfl
    · rw [stringAt?_congr (halike "ty" (by decide)), exprAt?_congr (halike "expr" (by decide)) rfl]
    · rw [exprAt?_congr (halike "inner" (by decide)) rfl]
    · rw [stringAt?_congr (halike "ty" (by decide)), exprsAt?_congr (halike "args" (by decide)) rfl]
    · rw [stringAt?_congr (halike "ty" (by decide))]
    · rw [exprAt?_congr (halike "target" (by decide)) rfl,
        exprAt?_congr (halike "value" (by decide)) rfl]
    · rfl

theorem Stmt.ofJson?_congr
    (h : ∀ key ∈ grammar.known .stmt fields, grammar.MemberAlike .stmt fields fields' key) :
    Stmt.ofJson? (.obj fields') = Stmt.ofJson? (.obj fields) := by
  simp only [Stmt.ofJson?, Json.fields?, Option.bind_eq_bind, Option.bind_some]
  rcases Grammar.tag?_alike h rfl with ⟨hnone, hnone'⟩ | ⟨kind, hkind, hkind', halike⟩
  · rw [hnone, hnone']
    rfl
  · rw [hkind, hkind', Option.bind_some, Option.bind_some]
    split
    · rw [exprAt?_congr (halike "expr" (by decide)) rfl]
    · rw [stringAt?_congr (halike "ty" (by decide)), stringAt?_congr (halike "name" (by decide)),
        exprAt?_congr (halike "init" (by decide)) rfl]
    · rw [exprAt?_congr (halike "expr" (by decide)) rfl]
    · rfl

theorem Import.ofJson?_congr
    (h : ∀ key ∈ grammar.known .import fields, grammar.MemberAlike .import fields fields' key) :
    Import.ofJson? (.obj fields') = Import.ofJson? (.obj fields) := by
  refine Grammar.fieldsOnce?_bind_eq h fun halike => ?_
  have hname := stringAt?_congr (halike "name" (by decide))
  have hstatic := (halike "isStatic" (by decide)).required_scalar rfl Json.isScalar_bool?
  have hdemand := (halike "isAsterisk" (by decide)).required_scalar rfl Json.isScalar_bool?
  simp only [hname, hstatic, hdemand]

theorem Parameter.ofJson?_congr
    (h : ∀ key ∈ grammar.known .parameter fields,
      grammar.MemberAlike .parameter fields fields' key) :
    Parameter.ofJson? (.obj fields') = Parameter.ofJson? (.obj fields) := by
  refine Grammar.fieldsOnce?_bind_eq h fun halike => ?_
  have htype := stringAt?_congr (halike "ty" (by decide))
  have hname := stringAt?_congr (halike "name" (by decide))
  simp only [htype, hname]

theorem Modifier.isScalar_ofJson? : Json.IsScalar Modifier.ofJson? :=
  ⟨fun _ => rfl, fun _ => rfl⟩

theorem Method.ofJson?_congr
    (h : ∀ key ∈ grammar.known .method fields, grammar.MemberAlike .method fields fields' key) :
    Method.ofJson? (.obj fields') = Method.ofJson? (.obj fields) := by
  refine Grammar.fieldsOnce?_bind_eq h fun halike => ?_
  have hmodifier := (halike "modifier" (by decide)).required_scalar rfl Modifier.isScalar_ofJson?
  have htype := stringAt?_congr (halike "returnType" (by decide))
  have hname := stringAt?_congr (halike "name" (by decide))
  have hparameters : fields'.items "parameters" Parameter.ofJson?
      = fields.items "parameters" Parameter.ofJson? :=
    (halike "parameters" (by decide)).items_eq nofun rfl
  have hthrows : fields'.items "throws" Json.string? = fields.items "throws" Json.string? :=
    (halike "throws" (by decide)).withDefault_eq nofun nofun
  have hbody : (fields'.required "body" fun body => do (← body.list?).mapM Stmt.ofJson?)
      = (fields.required "body" fun body => do (← body.list?).mapM Stmt.ofJson?) :=
    (halike "body" (by decide)).required_list rfl rfl
  simp only [hmodifier, htype, hname, hparameters, hthrows, hbody]

theorem SourceFile.ofJson?_congr
    (h : ∀ key ∈ grammar.known .file fields, grammar.MemberAlike .file fields fields' key) :
    SourceFile.ofJson? (.obj fields') = SourceFile.ofJson? (.obj fields) := by
  refine Grammar.fieldsOnce?_bind_eq h fun halike => ?_
  have hpackage := (halike "package" (by decide)).optional_scalar nofun Json.isScalar_string?
  have himports :
      (fields'.optional "imports" fun imports => do (← imports.list?).mapM Import.ofJson?)
        = (fields.optional "imports" fun imports => do
          (← imports.list?).mapM Import.ofJson?) := by
    refine (halike "imports" (by decide)).optional_eq nofun fun part hpart => ?_
    cases hpart
    exact Grammar.respects_list (G := grammar) .import
  have htypeName := stringAt?_congr (halike "typeName" (by decide))
  have hmembers : fields'.items "members" Method.ofJson?
      = fields.items "members" Method.ofJson? :=
    (halike "members" (by decide)).items_eq nofun rfl
  simp only [hpackage, himports, htypeName, hmembers]

theorem stable_grammar : grammar.Stable := by
  intro part fields fields' h
  cases part with
  | expr form => exact Expr.ofJsonBy?_congr h
  | stmt => exact Stmt.ofJson?_congr h
  | «import» => exact Import.ofJson?_congr h
  | parameter => exact Parameter.ofJson?_congr h
  | method => exact Method.ofJson?_congr h
  | file => exact SourceFile.ofJson?_congr h

end Alike

/-! ## Round trips -/

/-- An expression is an object, so it is never taken for an absent one. -/
theorem Expr.exists_toJson_eq (e : Expr) : ∃ fields, e.toJson = .obj fields := by
  cases e with
  | call scope name args => cases scope <;> exact ⟨_, rfl⟩
  | _ => exact ⟨_, rfl⟩

mutual

theorem Expr.ofJsonBy?_toJson (form : TagForm) : ∀ e : Expr, Expr.ofJsonBy? form e.toJson = some e
  | .name _ => rfl
  | .qualified qualifier name => by
      show (do some (Expr.qualified (← Expr.ofJsonBy? .nameOrPosition qualifier.toJson) name)) = _
      rw [Expr.ofJsonBy?_toJson .nameOrPosition qualifier]
      rfl
  | .field scope name => by
      show (do some (Expr.field (← Expr.ofJsonBy? .nameOrPosition scope.toJson) name)) = _
      rw [Expr.ofJsonBy?_toJson .nameOrPosition scope]
      rfl
  | .call none name args => by
      show (do some (Expr.call none name (← exprsOfJson? (exprsToJson args)))) = _
      rw [exprsOfJson?_exprsToJson args]
      rfl
  | .call (some scope) name args => by
      have hscope := Expr.ofJsonBy?_toJson .nameOrPosition scope
      obtain ⟨inside, hinside⟩ := scope.exists_toJson_eq
      rw [hinside] at hscope
      rw [Expr.toJson, hinside]
      show (do some (Expr.call (← (Expr.ofJsonBy? .nameOrPosition (.obj inside)).map some) name
        (← exprsOfJson? (exprsToJson args)))) = _
      rw [hscope, exprsOfJson?_exprsToJson args]
      rfl
  | .methodRef scope name => by
      show (do some (Expr.methodRef (← Expr.ofJsonBy? .nameOrPosition scope.toJson) name)) = _
      rw [Expr.ofJsonBy?_toJson .nameOrPosition scope]
      rfl
  | .string _ => rfl
  | .double _ => rfl
  | .null => rfl
  | .this => rfl
  | .cast type value => by
      show (do some (Expr.cast type (← Expr.ofJsonBy? .nameOrPosition value.toJson))) = _
      rw [Expr.ofJsonBy?_toJson .nameOrPosition value]
      rfl
  | .paren inner => by
      show (do some (Expr.paren (← Expr.ofJsonBy? .nameOrPosition inner.toJson))) = _
      rw [Expr.ofJsonBy?_toJson .nameOrPosition inner]
      rfl
  | .new type args => by
      show (do some (Expr.new type (← exprsOfJson? (exprsToJson args)))) = _
      rw [exprsOfJson?_exprsToJson args]
      rfl
  | .classOf _ => rfl
  | .assign target value => by
      show (do some (Expr.assign (← Expr.ofJsonBy? .nameOrPosition target.toJson)
        (← Expr.ofJsonBy? .nameOrPosition value.toJson))) = _
      rw [Expr.ofJsonBy?_toJson .nameOrPosition target, Expr.ofJsonBy?_toJson .nameOrPosition value]
      rfl

theorem exprsOfJson?_exprsToJson : ∀ es : List Expr, exprsOfJson? (exprsToJson es) = some es
  | [] => rfl
  | e :: es => by
      rw [exprsToJson, exprsOfJson?, Expr.ofJsonBy?_toJson .nameOrPosition e,
        exprsOfJson?_exprsToJson es]
      rfl

end

theorem Stmt.ofJson?_toJson (s : Stmt) : Stmt.ofJson? s.toJson = some s := by
  cases s with
  | expr e =>
      show (do some (Stmt.expr (← Expr.ofJsonBy? .nameOrPosition e.toJson))) = _
      rw [e.ofJsonBy?_toJson]
      rfl
  | declare type name init =>
      show (do some (Stmt.declare type name (← Expr.ofJsonBy? .nameOrPosition init.toJson))) = _
      rw [init.ofJsonBy?_toJson]
      rfl
  | ret value =>
      show (do some (Stmt.ret (← Expr.ofJsonBy? .nameOrPosition value.toJson))) = _
      rw [value.ofJsonBy?_toJson]
      rfl

theorem Import.ofJson?_toJson (i : Import) : Import.ofJson? i.toJson = some i := rfl

theorem Parameter.ofJson?_toJson (p : Parameter) : Parameter.ofJson? p.toJson = some p := rfl

theorem Modifier.ofJson?_toJson (m : Modifier) : Modifier.ofJson? m.toJson = some m := by
  cases m <;> rfl

theorem Method.ofJson?_toJson (m : Method) : Method.ofJson? m.toJson = some m := by
  show (do some (Method.mk (← Modifier.ofJson? m.modifier.toJson) m.returnType m.name
    (← (m.parameters.map Parameter.toJson).mapM Parameter.ofJson?)
    (← (m.throws.map Json.str).mapM Json.string?)
    (← (m.body.map Stmt.toJson).mapM Stmt.ofJson?))) = some m
  have hstring : ∀ s : String, (Json.str s).string? = some s := fun _ => rfl
  rw [m.modifier.ofJson?_toJson, Json.mapM_map_eq_some Parameter.ofJson?_toJson,
    Json.mapM_map_eq_some hstring, Json.mapM_map_eq_some Stmt.ofJson?_toJson]
  rfl

namespace SourceFile

/-- The members of a source file. -/
def jsonFields (file : SourceFile) : Fields :=
  [("package", .ofString? file.package),
    ("imports", match file.imports with
      | some imports => .arr (imports.map Import.toJson)
      | none => .null),
    ("typeName", .str file.typeName), ("members", .arr (file.methods.map Method.toJson))]

theorem optional_imports_jsonFields (file : SourceFile) :
    (file.jsonFields.optional "imports" fun imports => do
      (← imports.list?).mapM Import.ofJson?) = some file.imports := by
  obtain ⟨package, imports, typeName, methods⟩ := file
  cases imports with
  | none => rfl
  | some imports =>
      exact congrArg (Option.map some) (Json.mapM_map_eq_some Import.ofJson?_toJson imports)

theorem ofJson?_toJson (file : SourceFile) : ofJson? file.toJson = some file := by
  have hpackage : file.jsonFields.optional "package" Json.string? = some file.package :=
    Fields.optional_ofString? rfl
  have hmethods : file.jsonFields.items "members" Method.ofJson? = some file.methods :=
    Json.mapM_map_eq_some Method.ofJson?_toJson file.methods
  show (do some (SourceFile.mk (← file.jsonFields.optional "package" Json.string?)
    (← file.jsonFields.optional "imports" fun imports => do
      (← imports.list?).mapM Import.ofJson?)
    file.typeName (← file.jsonFields.items "members" Method.ofJson?))) = some file
  rw [hpackage, file.optional_imports_jsonFields, hmethods]
  rfl

end SourceFile

namespace Part

theorem decode_encode (part : Part) (value : part.Value) :
    part.decode (part.encode value) = some value := by
  cases part with
  | expr form => exact Expr.ofJsonBy?_toJson form value
  | stmt => exact Stmt.ofJson?_toJson value
  | «import» => exact Import.ofJson?_toJson value
  | parameter => exact Parameter.ofJson?_toJson value
  | method => exact Method.ofJson?_toJson value
  | file => exact SourceFile.ofJson?_toJson value

end Part

/-- Each value is read back from what is written for it and from every other
spelling of that. For files this tells absent from empty. -/
theorem decode_spellAlike :
    (∀ (part : Part) (value : part.Value), part.decode (part.encode value) = some value)
      ∧ (∀ (part : Part) json json', grammar.SpellAlike part json json' →
        part.decode json' = part.decode json)
      ∧ ∀ file : SourceFile,
        SourceFile.ofJson? { file with imports := none }.toJson
            ≠ SourceFile.ofJson? { file with imports := some [] }.toJson
          ∧ SourceFile.ofJson? { file with package := none }.toJson
            ≠ SourceFile.ofJson? { file with package := some "" }.toJson := by
  refine ⟨Part.decode_encode, fun _ _ _ => stable_grammar.decode_eq_of_spellAlike,
    fun file => ⟨?_, ?_⟩⟩
  · rw [SourceFile.ofJson?_toJson, SourceFile.ofJson?_toJson]
    simp
  · rw [SourceFile.ofJson?_toJson, SourceFile.ofJson?_toJson]
    simp

/-- A class with one method that returns the object itself. -/
def selfFile : SourceFile where
  package := none
  imports := some []
  typeName := "Main"
  methods := [⟨.public, "Main", "self", [], [], [.ret .this]⟩]

/-- The class in other words: the members of every object in another order,
and one more in the returned expression. -/
def selfFileJson : Json :=
  .obj [("members", .arr [
      .obj [("body", .arr [
          .obj [("expr", .obj [("name", .str "self"), ("kind", .str "this")]),
            ("kind", .str "return")]]),
        ("modifier", .str "public"), ("returnType", .str "Main"), ("name", .str "self"),
        ("parameters", .arr []), ("throws", .arr [])]]),
    ("package", .null), ("imports", .arr []), ("typeName", .str "Main")]

theorem decode_spellAlike_selfFile :
    grammar.SpellAlike .file selfFile.toJson selfFileJson
      ∧ SourceFile.ofJson? selfFileJson = some selfFile := by
  have hadded : grammar.Respells (.expr .nameOrPosition) (.obj [("kind", .str "this")])
      (.obj [("name", .str "self"), ("kind", .str "this")]) := .add (by decide)
  have hmoved : grammar.Respells .stmt (.obj [("kind", .str "return"), ("expr", Expr.this.toJson)])
      (.obj [("expr", Expr.this.toJson), ("kind", .str "return")]) := .reorder (.swap _ _ _)
  have hstmt := (Relation.ReflTransGen.single (.member rfl hadded)).head hmoved
  have hfront : ∀ (before : Fields) (member : String × Json) (part : Part),
      grammar.Respells part (.obj (before ++ [member])) (.obj (member :: before)) :=
    fun before member _ => .reorder (List.perm_append_singleton member before)
  have hmethod := (hstmt.lift (p := grammar.Respells .method)
    (fun stmt => Json.obj [("body", .arr ([] ++ stmt :: [])), ("modifier", .str "public"),
      ("returnType", .str "Main"), ("name", .str "self"), ("parameters", .arr []),
      ("throws", .arr [])]) fun _ _ h => .item rfl h).head (hfront _ _ _)
  have hfile := (hmethod.lift (p := grammar.Respells .file)
    (fun method => Json.obj [("members", .arr ([] ++ method :: [])), ("package", .null),
      ("imports", .arr []), ("typeName", .str "Main")]) fun _ _ h => .item rfl h).head
    (hfront _ _ _)
  have halike : grammar.SpellAlike .file selfFile.toJson selfFileJson :=
    Relation.EqvGen.reflTransGen_le_eqvGen _ _ _ hfile
  exact ⟨halike, (decode_spellAlike.2.1 .file _ _ halike).trans
    (decode_spellAlike.1 .file selfFile)⟩

end FxmlCodegen.Java
