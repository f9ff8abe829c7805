import FxmlCodegen.Compile
import FxmlCodegen.Text.Lossy

/-!
# Documents below a directory

The documents of a directory tree: every file with the extension `fxml`,
however deep, in the order of their paths. A document is named by its
file name without the extension, so `views/Main.fxml` is included as
`Main.fxml`. The tree has no links; `Discovery.Volume` follows them.

File names and paths are bytes, which need not be UTF-8. They are
compared and taken apart as bytes; where they are shown, as the name of a
document or in a message, they are `Text.lossy`.
-/

namespace FxmlCodegen

/-- The name of a file or folder. -/
abbrev FileName := List UInt8

inductive FileTree where
  | file (content : ByteArray)
  | folder (entries : List (FileName × FileTree))
  deriving Inhabited

namespace FileTree

/-! ## File names -/

/-- The byte of the dot before an extension. -/
def dot : UInt8 := 0x2E

/-- The byte that separates the names along a path. -/
def slash : UInt8 := 0x2F

/-- A file name cut at its last dot, if that is not the first byte. -/
def cutExtension (name : FileName) : Option (FileName × FileName) :=
  match Text.cutLastList dot name with
  | some ([], _) => none
  | some (stem, extension) => if name = [dot, dot] then none else some (stem, extension)
  | none => none

def stem (name : FileName) : FileName := ((cutExtension name).map (·.1)).getD name

def isDocumentName (name : FileName) : Bool :=
  (cutExtension name).map (·.2) == some (Text.bytes "fxml")

/-! ## Walking -/

mutual

/-- The files of the tree by the names on the way to them. A folder is
walked in the order of its names. -/
def files : FileTree → List (List FileName × ByteArray)
  | .file content => [([], content)]
  | .folder entries =>
    ((entryFiles entries).mergeSort fun a b => decide (a.1 ≤ b.1)).flatMap fun entry =>
      entry.2.map fun file => (entry.1 :: file.1, file.2)

/-- The files below each entry of a folder. -/
def entryFiles : List (FileName × FileTree) → List (FileName × List (List FileName × ByteArray))
  | [] => []
  | (name, tree) :: entries => (name, tree.files) :: entryFiles entries

end

/-- The last name of a path. -/
def lastName (path : List UInt8) : FileName :=
  match Text.cutLastList slash path with
  | some (_, after) => after
  | none => path

/-- The name of the file at `path` below a directory named `top`. -/
def fileName (top : List UInt8) (path : List FileName) : FileName := path.getLastD (lastName top)

/-- The documents among the files of a tree whose top is named `top`. -/
def documentFiles (top : List UInt8) (tree : FileTree) : List (List FileName × ByteArray) :=
  tree.files.filter fun file => isDocumentName (fileName top file.1)

end FileTree

namespace Discovery

/-- A path one step further down. -/
def joinPath (path : List UInt8) (name : FileName) : List UInt8 :=
  if path.getLast? = some FileTree.slash then path ++ name else path ++ FileTree.slash :: name

/-- The path of a file below `top`. -/
def fullPath (top : List UInt8) (path : List FileName) : List UInt8 := path.foldl joinPath top

/-- The paths of the documents below `top`, which itself may be a file or
missing. -/
def documentPaths (top : List UInt8) (tree : Option FileTree) : List (List UInt8) :=
  match tree with
  | some tree => (tree.documentFiles top).map fun file => fullPath top file.1
  | none => []

/-- Reads the document in a file. -/
def readFile (top : List UInt8) (file : List FileName × ByteArray) : Except Failure Document :=
  match String.fromUTF8? file.2 with
  | some source =>
    Document.read (Text.lossy (FileTree.stem (FileTree.fileName top file.1))) source
  | none => .error (.unreadableFile (Text.lossy (fullPath top file.1)) .notUtf8)

/-- Reads files in order, up to the first failure. -/
def readFiles (top : List UInt8) :
    List (List FileName × ByteArray) → Except Failure (List Document)
  | [] => .ok []
  | file :: files => do
    let d ← readFile top file
    let ds ← readFiles top files
    return d :: ds

/-- The documents below the directory `top`. -/
def documents (top : List UInt8) (tree : Option FileTree) : Except Failure (List Document) :=
  match tree with
  | some (.folder entries) => readFiles top (FileTree.documentFiles top (.folder entries))
  | _ => .error (.unreadableFile (Text.lossy top) .notDirectory)

end Discovery

end FxmlCodegen
