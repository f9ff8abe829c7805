import FxmlCodegen.Java.SourceFile
import FxmlCodegen.Table

/-!
# Source files by type

The source files generated code goes into, by qualified type name. Code
generation asks for the file of a controller and never makes one.
-/

namespace FxmlCodegen.Java

abbrev Sources := Table SourceFile

namespace Sources

/-- Stores a source file under its qualified name. -/
def insert (s : Sources) (file : SourceFile) : Sources := s.put file.qualifiedName file

/-- Makes sure that there is a source file for the type. -/
def declare (s : Sources) (qualified : String) : Sources :=
  match s.get? qualified with
  | some _ => s
  | none => s.put qualified (.ofType qualified)

/-- Changes the file of a type, if there is one. -/
def modify (s : Sources) (qualified : String) (f : SourceFile → SourceFile) : Sources :=
  match s.get? qualified with
  | some file => s.put qualified (f file)
  | none => s

/-- The files in the order of their qualified names. -/
def sorted (s : Sources) : List SourceFile :=
  s.values.mergeSort fun a b => decide (a.qualifiedName ≤ b.qualifiedName)

end Sources

end FxmlCodegen.Java
