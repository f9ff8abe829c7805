import FxmlCodegen.Java.Expr
import FxmlCodegen.Naming.Fresh
import FxmlCodegen.Table

/-!
# Scope

What naming and code generation share: the names taken in the current
document, the include targets of the whole batch, and the controller of
the document being compiled. Clearing the names keeps the rest, so that
an include finds documents named earlier.
-/

namespace FxmlCodegen

structure Scope where
  taken : List String := []
  /-- The controller of each document that can be included, by source. -/
  controllers : Table String := {}
  /-- The root type of each such document. -/
  factories : Table Java.TypeName := {}
  /-- The controller of the document being compiled. -/
  active : Option String := none
  deriving DecidableEq, Inhabited

namespace Scope

/-- A free name made from the seed, and the scope in which it is taken. -/
def fresh (s : Scope) (seed : String) : String × Scope :=
  let name := freshName s.taken seed
  (name, { s with taken := name :: s.taken })

/-- Takes a name as it is. -/
def reserve (s : Scope) (name : String) : Scope := { s with taken := name :: s.taken }

def clearNames (s : Scope) : Scope := { s with taken := [] }

def addController (s : Scope) (source controller : String) : Scope :=
  { s with controllers := s.controllers.put source controller }

def addFactory (s : Scope) (source : String) (type : Java.TypeName) : Scope :=
  { s with factories := s.factories.put source type }

end Scope

end FxmlCodegen
