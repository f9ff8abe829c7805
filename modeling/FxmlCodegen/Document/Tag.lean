import FxmlCodegen.Document.Basic
import FxmlCodegen.Markup.Attributes
import FxmlCodegen.Text.Lowercase
import FxmlCodegen.Text.Split

/-!
# Heads from tags

What a tag means: its kind by the spelling of its name, the attributes
with a meaning of their own, and the kind of every other attribute. No
name is checked against a list of classes or properties.
-/

namespace FxmlCodegen

/-! ## Attributes -/

/-- `onAction="#save"` is an event handler, `GridPane.rowIndex="1"` sets
a static property, everything else an instance property. -/
def AttributeKind.classify (name value : String) : AttributeKind :=
  if Text.startsWith "on" name && Text.startsWith "#" value then .eventHandler
  else if name.toList.contains '.' && !Text.startsLowercase name then .staticProperty
  else .instanceProperty

def Attribute.ofPair (pair : String × String) : Attribute :=
  ⟨pair.1, pair.2, .classify pair.1 pair.2⟩

namespace Head

/-- The attribute is kept among the element's attributes: it is not a
name space, not of the `fx:` name space and not the one that says what
an include or a root stands for. -/
def keepsAttribute (tag key : String) : Bool :=
  !(key == "xmlns" || Text.startsWith "xmlns:" key || Text.startsWith "fx:" key
    || (tag == "fx:include" && key == "source") || (tag == "fx:root" && key == "type"))

/-! ## Kinds -/

/-- The kind of a tag outside the `fx:` name space: a property if the
local part of its name starts lower-case, else an object. -/
def plainKind (tag : String) (controller : Option String) : Kind :=
  if Text.startsLowercase (Text.localName tag) then
    .property <|
      if tag.toList.contains '.' && !Text.startsLowercase tag then .staticProperty
      else .instanceProperty
  else
    .declaration controller

/-- The kind and name of a tag with these attributes. -/
def kindAndName (tag : String) (pairs : List (String × String)) :
    Except Markup.Fault (Kind × String) :=
  match Text.dropStart? "fx:" tag with
  | none => .ok (plainKind tag (pairs.lookup "fx:controller"), tag)
  | some "include" =>
    match pairs.lookup "source" with
    | some source => .ok (.include source, "include")
    | none => .error (.tree .includeWithoutSource)
  | some "root" => .ok (.root, (pairs.lookup "type").getD tag)
  | some "reference" => .ok (.reference, tag)
  | some "copy" => .ok (.copy, tag)
  | some "define" => .ok (.define, tag)
  | some "script" => .ok (.script, tag)
  | some _ => .ok (.unknownType, tag)

/-- The head a tag spells. -/
def ofTag (tag : Markup.Tag) : Except Markup.Fault Head := do
  let pairs ← tag.attributes
  let (kind, name) ← kindAndName tag.name pairs
  let kept := pairs.filter fun pair => keepsAttribute tag.name pair.1
  return {
    kind, name
    fxId := pairs.lookup "fx:id"
    id := kept.lookup "id"
    attributes := kept.map Attribute.ofPair }

end Head

end FxmlCodegen
