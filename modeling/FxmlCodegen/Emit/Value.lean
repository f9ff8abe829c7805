import FxmlCodegen.Emit.Resource
import FxmlCodegen.Java.Expr
import FxmlCodegen.Options

/-!
# Attribute values

The Java expression an attribute value stands for. The rules are tried
in a fixed order and the first that applies wins: size hints, `id`,
bundle keys, resources, `text`, enumeration constants, variables, and
for the rest the value itself as a name.
-/

namespace FxmlCodegen

open Java (Expr)

/-! ## Enumerations -/

/-- What tells that an attribute holds a constant of an enumeration. -/
inductive EnumTest where
  /-- Its value is one of these. -/
  | values (constants : List String)
  /-- The local part of its name is this; the value is not looked at. -/
  | named (property : String)

def EnumTest.holds (name value : String) : EnumTest → Bool
  | .values constants => constants.contains value
  | .named property => Text.localName name == property

/-- The enumerations, by qualified type name. The first test that holds
decides. -/
def enumerations : List (Java.TypeName × EnumTest) := [
  ("javafx.scene.control.ContentDisplay", .named "contentDisplay"),
  ("javafx.scene.layout.Priority", .values ["ALWAYS", "SOMETIMES", "NEVER"]),
  ("javafx.scene.control.TabPane.TabClosingPolicy",
    .values ["SELECTED_TAB", "UNAVAILABLE", "ALL_TABS"]),
  ("javafx.scene.text.TextAlignment", .named "textAlignment"),
  ("javafx.geometry.VPos", .named "valignment"),
  ("javafx.geometry.HPos", .named "halignment"),
  ("javafx.geometry.Pos",
    .values ["TOP_LEFT", "TOP_CENTER", "TOP_RIGHT", "CENTER_LEFT", "CENTER", "CENTER_RIGHT",
      "BOTTOM_LEFT", "BOTTOM_CENTER", "BOTTOM_RIGHT", "BASELINE_LEFT", "BASELINE_CENTER",
      "BASELINE_RIGHT"]),
  ("javafx.scene.control.OverrunStyle", .named "textOverrun"),
  ("javafx.geometry.Side", .named "side")]

/-- The enumeration whose constant the attribute holds. -/
def enumeration? (name value : String) : Option Java.TypeName :=
  (enumerations.find? fun e => e.2.holds name value).map (·.1)

/-! ## Size hints -/

/-- Attributes such as `prefWidth`, which may hold a size sentinel. -/
def isSizeHint (name : String) : Bool :=
  Text.startsWith "max" name || Text.startsWith "min" name || Text.startsWith "pref" name

/-- A constant of the class that holds the size sentinels. -/
def sizeSentinel (constant : String) : Expr :=
  .field (.ofDotted "javafx.scene.control.Control") constant

def sizeHint (value : String) : Expr :=
  if value == "-Infinity" then sizeSentinel "USE_PREF_SIZE"
  else if value == "-1.0" then sizeSentinel "USE_COMPUTED_SIZE"
  else .name value

/-! ## Resolution -/

/-- The expression that looks a key up in the resource bundle. -/
def bundleLookup (options : Options) (key : String) : Expr :=
  (Expr.name options.bundle).callOn "getString" [.string key]

/-- The expression for the attribute `name="value"` of a document with
this controller. -/
def resolveValue (options : Options) (controller : Option String) (name value : String) : Expr :=
  if isSizeHint name then sizeHint value
  else if name == "id" then .string value
  else
    match value.toList with
    | '%' :: key => bundleLookup options (String.ofList key)
    | '@' :: _ => .string (Resource.normalize controller value)
    | cs =>
      if name == "text" then .string value
      else
        match enumeration? name value, cs with
        | some type, _ => .field (.ofDotted type) value
        | none, '$' :: var => .name (String.ofList var)
        | none, _ => .name value

end FxmlCodegen
