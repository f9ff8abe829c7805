import FxmlCodegen.Document.Basic
import FxmlCodegen.Json.Fields
import FxmlCodegen.Json.Reader

/-!
# JSON form of documents

An element is an object whose `type` says its kind, with the children
under `elements`. Encoders write every field of the kind. Decoders skip
fields that this kind of node does not have, refuse a field given twice,
and take a missing list as empty and a missing optional field as absent.

Objects are the only form of a node. A reader may also take an array with
the values of the fields in their order for one; the decoders here refuse
that, as no encoder writes it.
-/

namespace FxmlCodegen

open Json (Fields)

/-! ## Encoding -/

def AttributeKind.tag : AttributeKind → String
  | .eventHandler => "eventHandler"
  | .instanceProperty => "instanceProperty"
  | .staticProperty => "staticProperty"

def PropertyKind.tag : PropertyKind → String
  | .instanceProperty => "instanceProperty"
  | .staticProperty => "staticProperty"

def Attribute.toJson (a : Attribute) : Json :=
  .obj [("name", .str a.name), ("value", .str a.value), ("attributeType", .str a.kind.tag)]

namespace Kind

def tag : Kind → String
  | .declaration _ => "instance-declaration"
  | .property _ => "property"
  | .include _ => "include"
  | .reference => "reference"
  | .copy => "copy"
  | .define => "define"
  | .root => "root"
  | .script => "script"
  | .unknownType => "unknown-type"
  | .unknownStaticProperty => "unknown-static-property"

/-- All tags, in the order by which an inner element may refer to them. -/
def tags : List String :=
  ["instance-declaration", "property", "include", "reference", "copy", "define", "root", "script",
    "unknown-type", "unknown-static-property"]

/-- The fields only this kind has. -/
def ownFields : Kind → Fields
  | .declaration controller => [("controller", .ofString? controller)]
  | .property kind => [("propertyType", .str kind.tag)]
  | .include source => [("source", .str source)]
  | _ => []

end Kind

/-- The fields every kind has, but for the children. -/
def Head.sharedFields (h : Head) : Fields :=
  [("name", .str h.name), ("fxId", .ofString? h.fxId), ("id", .ofString? h.id),
    ("identifier", .ofString? h.identifier),
    ("attributes", .arr (h.attributes.map Attribute.toJson))]

namespace Element

mutual

def toJson : Element → Json
  | mk h cs =>
    .obj (("type", .str h.kind.tag) ::
      (h.sharedFields ++ ("elements", .arr (allToJson cs)) :: h.kind.ownFields))

def allToJson : List Element → List Json
  | [] => []
  | e :: es => e.toJson :: allToJson es

end

end Element

def Instruction.toJson : Instruction → Json
  | .import path wholePackage =>
    .obj [("type", .str "import"), ("value", .str path),
      ("importType", .str (if wholePackage then "importPackage" else "importClass"))]
  | .language name => .obj [("type", .str "language"), ("value", .str name)]

def Document.toJson (d : Document) : Json :=
  .obj [("name", .str d.name),
    ("root", match d.root with
      | some root => root.toJson
      | none => .null),
    ("processingInstructions", .arr (d.instructions.map Instruction.toJson))]

/-- The JSON form of documents compiled together. -/
def Document.batchToJson (ds : List Document) : Json :=
  .obj [("fxmls", .arr (ds.map Document.toJson))]

/-! ## Decoding -/

def AttributeKind.ofJson? : Json → Option AttributeKind
  | .str "eventHandler" => some .eventHandler
  | .str "instanceProperty" => some .instanceProperty
  | .str "staticProperty" => some .staticProperty
  | _ => none

def PropertyKind.ofJson? : Json → Option PropertyKind
  | .str "instanceProperty" => some .instanceProperty
  | .str "staticProperty" => some .staticProperty
  | _ => none

def Attribute.ofJson? (json : Json) : Option Attribute := do
  let fields ← Json.fieldsOnce? ["name", "value", "attributeType"] json
  some ⟨← fields.required "name" Json.string?, ← fields.required "value" Json.string?,
    ← fields.required "attributeType" AttributeKind.ofJson?⟩

namespace Head

/-- The fields of an element besides `type`. -/
def fieldNames (tag : String) : List String :=
  let shared := ["name", "fxId", "id", "identifier", "attributes", "elements"]
  match tag with
  | "instance-declaration" => "controller" :: shared
  | "property" => "propertyType" :: shared
  | "include" => "source" :: shared
  | _ => shared

def kindOfFields? (form : Json.TagForm) (fields : Fields) : Option Kind := do
  match ← fields.tag? form "type" Kind.tags fieldNames with
  | "instance-declaration" => some (.declaration (← fields.optional "controller" Json.string?))
  | "property" => some (.property (← fields.required "propertyType" PropertyKind.ofJson?))
  | "include" => some (.include (← fields.required "source" Json.string?))
  | "reference" => some .reference
  | "copy" => some .copy
  | "define" => some .define
  | "root" => some .root
  | "script" => some .script
  | "unknown-type" => some .unknownType
  | "unknown-static-property" => some .unknownStaticProperty
  | _ => none

def ofFields? (form : Json.TagForm) (fields : Fields) : Option Head := do
  some {
    kind := ← kindOfFields? form fields
    name := ← fields.required "name" Json.string?
    fxId := ← fields.optional "fxId" Json.string?
    id := ← fields.optional "id" Json.string?
    identifier := ← fields.optional "identifier" Json.string?
    attributes := ← fields.items "attributes" Attribute.ofJson? }

end Head

namespace Element

mutual

/-- An element whose kind is given in this form. Its children may give
theirs by position. -/
def ofJsonBy? (form : Json.TagForm) : Json → Option Element
  | .obj fields => do
    let head ← Head.ofFields? form fields
    some (mk head (← childrenOfFields? fields))
  | _ => none

/-- The children under the first `elements`; none if there is no such
field. -/
def childrenOfFields? : List (String × Json) → Option (List Element)
  | [] => some []
  | (key, .arr items) :: fields =>
    if key == "elements" then allOfJson? items else childrenOfFields? fields
  | (key, _) :: fields => if key == "elements" then none else childrenOfFields? fields

def allOfJson? : List Json → Option (List Element)
  | [] => some []
  | item :: items => do some ((← ofJsonBy? .nameOrPosition item) :: (← allOfJson? items))

end

def ofJson? (json : Json) : Option Element := ofJsonBy? .name json

end Element

namespace Instruction

def tags : List String := ["import", "language"]

def fieldNames (tag : String) : List String :=
  match tag with
  | "import" => ["value", "importType"]
  | "language" => ["value"]
  | _ => []

/-- Whether an import is of a whole package. -/
def wholePackageOfJson? : Json → Option Bool
  | .str "importPackage" => some true
  | .str "importClass" => some false
  | _ => none

def ofJson? (json : Json) : Option Instruction := do
  let fields ← json.fields?
  match ← fields.tag? .name "type" tags fieldNames with
  | "import" =>
    some (.import (← fields.required "value" Json.string?)
      (← fields.required "importType" wholePackageOfJson?))
  | "language" => some (.language (← fields.required "value" Json.string?))
  | _ => none

end Instruction

namespace Document

def ofJson? (json : Json) : Option Document := do
  let fields ← Json.fieldsOnce? ["name", "root", "processingInstructions"] json
  some {
    name := ← fields.required "name" Json.string?
    root := ← fields.optional "root" Element.ofJson?
    instructions := ← fields.items "processingInstructions" Instruction.ofJson? }

def batchOfJson? (json : Json) : Option (List Document) := do
  let fields ← Json.fieldsOnce? ["fxmls"] json
  fields.required "fxmls" fun documents => do (← documents.list?).mapM ofJson?

/-! ## Documents from JSON text

Text is read under limits that a value already at hand does not have:
containers nest at most 127 deep, every number is a finite double and
every string a text. They hold for the trees and instructions of a
document; a field that is skipped is not looked into. -/

/-- How deep containers may nest in a text. -/
def maxNesting : Nat := 127

/-- The tree and the instructions of a document keep within the limits.
The three containers around them count. -/
def isBounded (json : Json) : Bool :=
  match json with
  | .obj fields => fields.all fun (key, value) =>
      !(key == "root" || key == "processingInstructions") || value.isBounded (maxNesting - 3)
  | _ => true

def batchIsBounded (json : Json) : Bool :=
  match json with
  | .obj fields => fields.all fun (key, value) =>
      match value with
      | .arr documents => key != "fxmls" || documents.all isBounded
      | _ => true
  | _ => true

/-- The documents a JSON text describes. -/
def batchOfText? (text : String) : Option (List Document) := do
  let json ← Json.parse? text
  if batchIsBounded json then batchOfJson? json else none

end Document

end FxmlCodegen
