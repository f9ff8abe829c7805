import FxmlCodegen.Text.Split

/-!
# Resource paths

A value such as `@../images/a.png` names a resource relative to the
package of the controller. Leading `..` segments climb out of the
package and stop at the top; later ones are kept.
-/

namespace FxmlCodegen.Resource

/-- The package of a controller, as segments. -/
def packageOf (controller : Option String) : List String :=
  match controller with
  | some name => ((Text.split '.' name).filter (· != "")).dropLast
  | none => []

/-- Drops the `..` segments at the front, but for a last one, and one
segment of the base for each. -/
def climb : List String → List String → List String × List String
  | base, ".." :: segment :: rest => climb base.dropLast (segment :: rest)
  | base, relative => (base, relative)

/-- The absolute path of the resource a value names. -/
def normalize (controller : Option String) (value : String) : String :=
  let relative := (Text.dropStart? "@" value).getD value
  let (base, relative) := climb (packageOf controller) (Text.split '/' relative)
  "/" ++ "/".intercalate (base ++ relative.filter fun s => s != "" && s != ".")

end FxmlCodegen.Resource
