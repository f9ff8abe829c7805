import FxmlCodegen.Document.Codec
import FxmlCodegen.Proofs.Respelling

/-!
# Documents as JSON and back

What is written for documents is read back as those documents, whatever the
kinds and the depth of their elements. Reading takes every other spelling
(`Json.Grammar.SpellAlike`) alike: members in another order, members that
the kind of node does not have, and absent values or empty lists that are
left out, in the batch, a document, an element at any depth or an attribute.

The children of an element are read by a recursion of their own; it is what
`Fields.items` does with the key `elements` (`childrenOfFields?_eq_items`),
so one lemma about lists under a key serves them too.
-/

namespace FxmlCodegen

open Json (Fields Grammar TagForm)

/-! ## Children by key -/

namespace Element

theorem allOfJson?_eq_mapM : ∀ items : List Json,
    allOfJson? items = items.mapM (ofJsonBy? .nameOrPosition)
  | [] => rfl
  | item :: items => by
      rw [allOfJson?, allOfJson?_eq_mapM items, List.mapM_cons]
      rfl

theorem childrenOfFields?_eq_items : ∀ fields : Fields,
    childrenOfFields? fields = fields.items "elements" (ofJsonBy? .nameOrPosition)
  | [] => by
      rw [childrenOfFields?]
      rfl
  | (key, value) :: fields => by
      by_cases hkey : key = "elements"
      · subst hkey
        cases value <;> simp [childrenOfFields?, Fields.items, Fields.withDefault, Fields.get?,
          Json.list?, allOfJson?_eq_mapM]
      · have ih := childrenOfFields?_eq_items fields
        have hget := Fields.get?_cons_of_ne (Ne.symm hkey) value fields
        unfold Fields.items Fields.withDefault at ih ⊢
        rw [hget, ← ih]
        cases value <;> simp [childrenOfFields?, hkey]

end Element

/-! ## The grammar -/

namespace Document

/-- What an object in the JSON of documents is read as. -/
inductive Part where
  | batch
  | document
  | instruction
  /-- An element that gives its kind in this form. -/
  | element (form : TagForm)
  | attr

namespace Part

def Value : Part → Type
  | .batch => List Document
  | .document => Document
  | .instruction => Instruction
  | .element _ => Element
  | .attr => Attribute

def decode : (part : Part) → Json → Option part.Value
  | .batch => batchOfJson?
  | .document => Document.ofJson?
  | .instruction => Instruction.ofJson?
  | .element form => Element.ofJsonBy? form
  | .attr => Attribute.ofJson?

def known : Part → Fields → List String
  | .batch, _ => ["fxmls"]
  | .document, _ => ["name", "root", "processingInstructions"]
  | .instruction, fields =>
    fields.taggedKeys .name "type" Instruction.tags Instruction.fieldNames
  | .element form, fields => fields.taggedKeys form "type" Kind.tags Head.fieldNames
  | .attr, _ => ["name", "value", "attributeType"]

def blank? : Part → String → Option Json
  | .document, "root" => some .null
  | .document, "processingInstructions" => some (.arr [])
  | .element _, "controller" => some .null
  | .element _, "fxId" => some .null
  | .element _, "id" => some .null
  | .element _, "identifier" => some .null
  | .element _, "attributes" => some (.arr [])
  | .element _, "elements" => some (.arr [])
  | _, _ => none

def inner? : Part → String → Option Part
  | .batch, "fxmls" => some .document
  | .document, "root" => some (.element .name)
  | .document, "processingInstructions" => some .instruction
  | .element _, "attributes" => some .attr
  | .element _, "elements" => some (.element .nameOrPosition)
  | _, _ => none

end Part

/-- How documents are read from JSON. -/
def grammar : Grammar Part where
  Value := Part.Value
  decode := Part.decode
  known := Part.known
  blank? := Part.blank?
  inner? := Part.inner?

end Document

/-! ## Members that are alike -/

open Document (Part grammar)

section Alike

variable {fields fields' : Fields}

theorem Attribute.ofJson?_congr
    (h : ∀ key ∈ grammar.known .attr fields, grammar.MemberAlike .attr fields fields' key) :
    Attribute.ofJson? (.obj fields') = Attribute.ofJson? (.obj fields) := by
  refine Grammar.fieldsOnce?_bind_eq h fun halike => ?_
  have hname := (halike "name" (by decide)).required_scalar rfl Json.isScalar_string?
  have hvalue := (halike "value" (by decide)).required_scalar rfl Json.isScalar_string?
  have hkind : fields'.required "attributeType" AttributeKind.ofJson? = _ :=
    (halike "attributeType" (by decide)).required_scalar rfl ⟨fun _ => rfl, fun _ => rfl⟩
  simp only [hname, hvalue, hkind]

theorem Instruction.ofJson?_congr
    (h : ∀ key ∈ grammar.known .instruction fields,
      grammar.MemberAlike .instruction fields fields' key) :
    Instruction.ofJson? (.obj fields') = Instruction.ofJson? (.obj fields) := by
  simp only [ofJson?, Json.fields?, Option.bind_eq_bind, Option.bind_some]
  rcases Grammar.tag?_alike h rfl with ⟨hnone, hnone'⟩ | ⟨tag, htag, htag', halike⟩
  · rw [hnone, hnone']
    rfl
  · rw [htag, htag', Option.bind_some, Option.bind_some]
    split
    · have hvalue := (halike "value" (by decide)).required_scalar rfl Json.isScalar_string?
      have htype : fields'.required "importType" wholePackageOfJson? = _ :=
        (halike "importType" (by decide)).required_scalar rfl ⟨fun _ => rfl, fun _ => rfl⟩
      rw [hvalue, htype]
    · have hvalue := (halike "value" (by decide)).required_scalar rfl Json.isScalar_string?
      rw [hvalue]
    · rfl

namespace Head

/-- The fields every kind of element has. -/
theorem mem_fieldNames {key : String}
    (hkey : key ∈ ["name", "fxId", "id", "identifier", "attributes", "elements"]) (tag : String) :
    key ∈ fieldNames tag := by
  unfold fieldNames
  split
  · exact List.mem_cons_of_mem _ hkey
  · exact List.mem_cons_of_mem _ hkey
  · exact List.mem_cons_of_mem _ hkey
  · exact hkey

theorem kindOfFields?_congr {form : TagForm} {tag : String}
    (htag : fields.tag? form "type" Kind.tags fieldNames = some tag)
    (htag' : fields'.tag? form "type" Kind.tags fieldNames = some tag)
    (halike : ∀ key ∈ fieldNames tag,
      grammar.ValueAlike (.element form) key (fields.get? key) (fields'.get? key)) :
    kindOfFields? form fields' = kindOfFields? form fields := by
  simp only [kindOfFields?, htag, htag', Option.bind_eq_bind, Option.bind_some]
  split
  · have hcontroller := (halike "controller" (by decide)).optional_scalar
      (by rintro _ ⟨⟩; rfl) Json.isScalar_string?
    rw [hcontroller]
  · have hkind : fields'.required "propertyType" PropertyKind.ofJson? = _ :=
      (halike "propertyType" (by decide)).required_scalar rfl ⟨fun _ => rfl, fun _ => rfl⟩
    rw [hkind]
  · have hsource := (halike "source" (by decide)).required_scalar rfl Json.isScalar_string?
    rw [hsource]
  all_goals rfl

theorem ofFields?_congr {form : TagForm} {tag : String}
    (htag : fields.tag? form "type" Kind.tags fieldNames = some tag)
    (htag' : fields'.tag? form "type" Kind.tags fieldNames = some tag)
    (halike : ∀ key ∈ fieldNames tag,
      grammar.ValueAlike (.element form) key (fields.get? key) (fields'.get? key)) :
    ofFields? form fields' = ofFields? form fields := by
  have hshared := fun key hkey => halike key (mem_fieldNames hkey tag)
  have hkind := kindOfFields?_congr htag htag' halike
  have hname := (hshared "name" (by decide)).required_scalar rfl Json.isScalar_string?
  have hfxId := (hshared "fxId" (by decide)).optional_scalar
    (by rintro _ ⟨⟩; rfl) Json.isScalar_string?
  have hid := (hshared "id" (by decide)).optional_scalar
    (by rintro _ ⟨⟩; rfl) Json.isScalar_string?
  have hidentifier := (hshared "identifier" (by decide)).optional_scalar
    (by rintro _ ⟨⟩; rfl) Json.isScalar_string?
  have hattributes : fields'.items "attributes" Attribute.ofJson?
      = fields.items "attributes" Attribute.ofJson? :=
    (hshared "attributes" (by decide)).items_eq (by rintro _ ⟨⟩; rfl) rfl
  simp only [ofFields?, hkind, hname, hfxId, hid, hidentifier, hattributes]

end Head

theorem Element.ofJsonBy?_congr {form : TagForm}
    (h : ∀ key ∈ grammar.known (.element form) fields,
      grammar.MemberAlike (.element form) fields fields' key) :
    ofJsonBy? form (.obj fields') = ofJsonBy? form (.obj fields) := by
  rw [ofJsonBy?, ofJsonBy?]
  rcases Grammar.tag?_alike h rfl with ⟨hnone, hnone'⟩ | ⟨tag, htag, htag', halike⟩
  · have hhead : ∀ fields : Fields, fields.tag? form "type" Kind.tags Head.fieldNames = none →
        Head.ofFields? form fields = none := by
      intro fields hnone
      rw [Head.ofFields?, Head.kindOfFields?, hnone]
      rfl
    rw [hhead fields hnone, hhead fields' hnone']
    rfl
  · have helements : childrenOfFields? fields' = childrenOfFields? fields := by
      rw [childrenOfFields?_eq_items, childrenOfFields?_eq_items]
      exact (halike "elements" (Head.mem_fieldNames (by decide) tag)).items_eq
        (by rintro _ ⟨⟩; rfl) rfl
    rw [Head.ofFields?_congr htag htag' halike, helements]

namespace Document

theorem ofJson?_congr
    (h : ∀ key ∈ grammar.known .document fields, grammar.MemberAlike .document fields fields' key) :
    ofJson? (.obj fields') = ofJson? (.obj fields) := by
  refine Grammar.fieldsOnce?_bind_eq h fun halike => ?_
  have hname := (halike "name" (by decide)).required_scalar rfl Json.isScalar_string?
  have hroot : fields'.optional "root" Element.ofJson? = fields.optional "root" Element.ofJson? :=
    (halike "root" (by decide)).optional_node (by rintro _ ⟨⟩; rfl) rfl fun _ => rfl
  have hinstructions : fields'.items "processingInstructions" Instruction.ofJson?
      = fields.items "processingInstructions" Instruction.ofJson? :=
    (halike "processingInstructions" (by decide)).items_eq (by rintro _ ⟨⟩; rfl) rfl
  simp only [hname, hroot, hinstructions]

theorem batchOfJson?_congr
    (h : ∀ key ∈ grammar.known .batch fields, grammar.MemberAlike .batch fields fields' key) :
    batchOfJson? (.obj fields') = batchOfJson? (.obj fields) :=
  Grammar.fieldsOnce?_bind_eq h fun halike => (halike "fxmls" (by decide)).required_list rfl rfl

theorem stable_grammar : grammar.Stable := by
  intro part fields fields' h
  cases part with
  | batch => exact batchOfJson?_congr h
  | document => exact ofJson?_congr h
  | instruction => exact Instruction.ofJson?_congr h
  | element form => exact Element.ofJsonBy?_congr h
  | attr => exact Attribute.ofJson?_congr h

end Document

end Alike

/-! ## Round trips -/

theorem Attribute.ofJson?_toJson (a : Attribute) : ofJson? a.toJson = some a := by
  obtain ⟨name, value, kind⟩ := a
  cases kind <;> rfl

theorem Instruction.ofJson?_toJson (i : Instruction) : ofJson? i.toJson = some i := by
  cases i with
  | «import» path wholePackage => cases wholePackage <;> rfl
  | language name => rfl

namespace Head

/-- The members of an element with these children. -/
def fieldsWith (h : Head) (children : List Json) : Fields :=
  ("type", .str h.kind.tag) :: (h.sharedFields ++ ("elements", .arr children) :: h.kind.ownFields)

theorem kindOfFields?_fieldsWith (form : TagForm) (h : Head) (children : List Json) :
    kindOfFields? form (h.fieldsWith children) = some h.kind := by
  obtain ⟨kind, name, fxId, id, identifier, attributes⟩ := h
  cases kind with
  | declaration controller => cases controller <;> rfl
  | property form => cases form <;> rfl
  | _ => rfl

theorem ofFields?_fieldsWith (form : TagForm) (h : Head) (children : List Json) :
    ofFields? form (h.fieldsWith children) = some h := by
  have hname : (h.fieldsWith children).required "name" Json.string? = some h.name := rfl
  have hfxId : (h.fieldsWith children).optional "fxId" Json.string? = some h.fxId :=
    Fields.optional_ofString? rfl
  have hid : (h.fieldsWith children).optional "id" Json.string? = some h.id :=
    Fields.optional_ofString? rfl
  have hidentifier : (h.fieldsWith children).optional "identifier" Json.string?
      = some h.identifier := Fields.optional_ofString? rfl
  have hattributes : (h.fieldsWith children).items "attributes" Attribute.ofJson?
      = some h.attributes := Json.mapM_map_eq_some Attribute.ofJson?_toJson h.attributes
  simp only [ofFields?, kindOfFields?_fieldsWith, hname, hfxId, hid, hidentifier, hattributes,
    Option.bind_eq_bind, Option.bind_some]

end Head

namespace Element

theorem childrenOfFields?_fieldsWith (h : Head) (children : List Json) :
    childrenOfFields? (h.fieldsWith children) = allOfJson? children := by
  rw [childrenOfFields?_eq_items, allOfJson?_eq_mapM]
  rfl

mutual

theorem ofJsonBy?_toJson (form : TagForm) : ∀ e : Element, ofJsonBy? form e.toJson = some e
  | mk h cs => by
      have hchildren := allOfJson?_allToJson cs
      rw [toJson]
      show ofJsonBy? form (.obj (h.fieldsWith (allToJson cs))) = some (mk h cs)
      rw [ofJsonBy?, Head.ofFields?_fieldsWith, childrenOfFields?_fieldsWith, hchildren]
      rfl

theorem allOfJson?_allToJson : ∀ es : List Element, allOfJson? (allToJson es) = some es
  | [] => rfl
  | e :: es => by
      rw [allToJson, allOfJson?, ofJsonBy?_toJson .nameOrPosition e, allOfJson?_allToJson es]
      rfl

end

end Element

namespace Document

/-- The members of a document. -/
def jsonFields (d : Document) : Fields :=
  [("name", .str d.name),
    ("root", match d.root with
      | some root => root.toJson
      | none => .null),
    ("processingInstructions", .arr (d.instructions.map Instruction.toJson))]

theorem optional_root_jsonFields (d : Document) :
    d.jsonFields.optional "root" Element.ofJson? = some d.root := by
  obtain ⟨name, root, instructions⟩ := d
  cases root with
  | none => rfl
  | some root =>
      have hread := Element.ofJsonBy?_toJson .name root
      obtain ⟨h, cs⟩ := root
      -- An element is an object, so it is not taken for an absent one.
      rw [Element.toJson] at hread
      have hget : (jsonFields ⟨name, some (.mk h cs), instructions⟩).get? "root" = some (.obj _) :=
        congrArg some (Element.toJson.eq_1 h cs)
      rw [Fields.optional, hget]
      exact congrArg (Option.map some) hread

theorem ofJson?_toJson (d : Document) : ofJson? d.toJson = some d := by
  have hname : d.jsonFields.required "name" Json.string? = some d.name := rfl
  have hinstructions : d.jsonFields.items "processingInstructions" Instruction.ofJson?
      = some d.instructions := Json.mapM_map_eq_some Instruction.ofJson?_toJson d.instructions
  have hfields : Json.fieldsOnce? ["name", "root", "processingInstructions"] d.toJson
      = some d.jsonFields := rfl
  simp only [ofJson?, hfields, hname, d.optional_root_jsonFields, hinstructions,
    Option.bind_eq_bind, Option.bind_some]

/-- Documents written as JSON are read back as they were, and so is every
other spelling of what was written. -/
theorem batchOfJson?_spellAlike :
    (∀ ds : List Document, batchOfJson? (batchToJson ds) = some ds)
      ∧ ∀ json json', grammar.SpellAlike .batch json json' →
        batchOfJson? json' = batchOfJson? json :=
  ⟨Json.mapM_map_eq_some ofJson?_toJson, fun _ _ => stable_grammar.decode_eq_of_spellAlike⟩

/-- A view of one label. -/
def statusView : Document where
  name := "Main"
  root := some (.leaf { kind := .declaration none, name := "Label", fxId := some "status" })

/-- The view in other words: members in another order, the label without its
list of children and with a member that only includes have. -/
def statusViewJson : Json :=
  .obj [("fxmls", .arr [
    .obj [
      ("root", .obj [("source", .str "A.fxml"), ("controller", .null), ("attributes", .arr []),
        ("identifier", .null), ("id", .null), ("fxId", .str "status"), ("name", .str "Label"),
        ("type", .str "instance-declaration")]),
      ("name", .str "Main"), ("processingInstructions", .arr [])]])]

theorem batchOfJson?_spellAlike_statusView :
    grammar.SpellAlike .batch (batchToJson [statusView]) statusViewJson
      ∧ batchOfJson? statusViewJson = some [statusView] := by
  let before : Fields := [("type", .str "instance-declaration"), ("name", .str "Label"),
    ("fxId", .str "status"), ("id", .null), ("identifier", .null), ("attributes", .arr [])]
  let kept : Fields := before ++ [("controller", .null)]
  have hfront : grammar.Respells (.element .name)
      (.obj (before ++ ("elements", .arr []) :: [("controller", .null)]))
      (.obj (("elements", .arr []) :: kept)) := .reorder List.perm_middle
  have hshort : grammar.Respells (.element .name) (.obj (("elements", .arr []) :: kept))
      (.obj kept) := .leaveOut rfl rfl
  have hreversed : grammar.Respells (.element .name) (.obj kept) (.obj kept.reverse) :=
    .reorder (List.reverse_perm kept).symm
  have hadded : grammar.Respells (.element .name) (.obj kept.reverse)
      (.obj (("source", .str "A.fxml") :: kept.reverse)) := .add (by decide)
  have hlabel := (((Relation.ReflTransGen.single hfront).tail hshort).tail hreversed).tail hadded
  have hmoved : grammar.Respells .document statusView.toJson _ := .reorder (.swap _ _ _)
  have hview := (hlabel.lift (p := grammar.Respells .document)
    (fun label => Json.obj [("root", label), ("name", .str "Main"),
      ("processingInstructions", .arr [])])
    fun _ _ h => .member rfl h).head hmoved
  have hbatch := hview.lift (p := grammar.Respells .batch)
    (fun view => Json.obj [("fxmls", .arr ([] ++ view :: []))]) fun _ _ h => .item rfl h
  have halike : grammar.SpellAlike .batch (batchToJson [statusView]) statusViewJson :=
    Relation.EqvGen.reflTransGen_le_eqvGen _ _ _ hbatch
  exact ⟨halike, (batchOfJson?_spellAlike.2 _ _ halike).trans (batchOfJson?_spellAlike.1 _)⟩

end Document

end FxmlCodegen
