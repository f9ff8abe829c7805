import FxmlCodegen.Document.Element

/-!
# Documents

A view document: its name, the element at its root and the processing
instructions in front of it. Documents compiled together are a list;
each may include any other of the list.
-/

namespace FxmlCodegen

/-- A processing instruction with a meaning for code generation. -/
inductive Instruction where
  /-- Import of a class, or of every class of a package. -/
  | «import» (path : String) (wholePackage : Bool)
  /-- The scripting language of the document. -/
  | language (name : String)
  deriving DecidableEq, Inhabited

structure Document where
  /-- The file name without its extension. -/
  name : String
  root : Option Element
  instructions : List Instruction := []
  deriving Inhabited

namespace Document

/-- The source by which other documents include this one. -/
def includeKey (d : Document) : String := d.name ++ ".fxml"

/-- The heads of all elements, each before those of its children. -/
def heads (d : Document) : List Head :=
  match d.root with
  | some root => root.preorder
  | none => []

end Document

end FxmlCodegen
