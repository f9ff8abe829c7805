import FxmlCodegen.Discovery.FileTree

/-!
# Directories with links

Symbolic links are followed as if what they name stood in their place,
with two exceptions: a link that leads nowhere is not there, and neither
is a link to a directory one is already inside of. A path leads nowhere
if it takes more than `maxLinks` links in all to follow it, counted from
the top; so a link deep below other links may be one too many. `unfold`
turns a directory with links into the tree one then sees.
-/

namespace FxmlCodegen

inductive Entry where
  | file (content : ByteArray)
  | folder (entries : List (FileName × Entry))
  | link (target : List UInt8)
  deriving Inhabited

/-- The place of an entry: the names on the way from the top. -/
abbrev Location := List FileName

namespace Entry

/-- The entry at a location; links on the way are not followed. -/
def get? : Entry → Location → Option Entry
  | e, [] => some e
  | .folder entries, name :: loc =>
    match entries.lookup name with
    | some e => e.get? loc
    | none => none
  | _, _ :: _ => none

def isFolderAt (top : Entry) (loc : Location) : Bool :=
  match top.get? loc with
  | some (.folder _) => true
  | _ => false

/-! ## Building -/

/-- The entries with this one under the name. -/
def putEntry (name : FileName) (e : Entry) : List (FileName × Entry) → List (FileName × Entry)
  | [] => [(name, e)]
  | (n, old) :: entries =>
    if n = name then (n, e) :: entries else (n, old) :: putEntry name e entries

/-- Puts an entry at a location, making the folders on the way. -/
def put (e : Entry) : Location → Entry → Entry
  | [], _ => e
  | name :: loc, .folder entries =>
    .folder (putEntry name (put e loc ((entries.lookup name).getD (.folder []))) entries)
  | name :: loc, _ => .folder [(name, put e loc (.folder []))]

/-! ## Following links -/

/-- How many links a path may lead through. -/
def maxLinks : Nat := 40

/-- Where a path leads, and how many more links it could go through. -/
structure Arrival where
  loc : Location
  links : Nat

/-- The name of a step that stays where one is: no name, or a dot. -/
def isHere (name : FileName) : Bool := name = [] || name = [FileTree.dot]

/-- The name of the step up. -/
def isUp (name : FileName) : Bool := name = [FileTree.dot, FileTree.dot]

/-- Where a path leads from `loc`, if `onward` says where it leads once a
link on the way has been replaced by its target. Nothing outside the top
can be reached. -/
def followWith (top : Entry) (onward : Location → List FileName → Option Arrival) (links : Nat)
    (loc : Location) : List FileName → Option Arrival
  | [] => some ⟨loc, links⟩
  | name :: path =>
    if !top.isFolderAt loc then none
    else if isHere name then followWith top onward links loc path
    else if isUp name then
      if loc.isEmpty then none else followWith top onward links loc.dropLast path
    else
      match top.get? (loc ++ [name]) with
      | none => none
      | some (.link target) =>
        if target.head? = some FileTree.slash then none
        else onward loc (Text.splitList FileTree.slash target ++ path)
      | some _ => followWith top onward links (loc ++ [name]) path

/-- Where a path leads from a location, with at most so many links on the
way. -/
def follow (top : Entry) : (links : Nat) → Location → List FileName → Option Arrival
  | 0 => followWith top (fun _ _ => none) 0
  | links + 1 => followWith top (follow top links) (links + 1)

/-- The location for a new entry: links are followed as far as the path
exists, the rest is taken as it is. -/
def locateNew (top : Entry) : Location → List FileName → Location
  | loc, [] => loc
  | loc, name :: path =>
    if isHere name then locateNew top loc path
    else if isUp name then locateNew top loc.dropLast path
    else
      match follow top maxLinks loc [name] with
      | some found => locateNew top found.loc path
      | none => locateNew top (loc ++ [name]) path

/-! ## Unfolding -/

mutual

/-- How many entries there are, the top included. -/
def size : Entry → Nat
  | .file _ => 1
  | .folder entries => 1 + sizeAll entries
  | .link _ => 1

def sizeAll : List (FileName × Entry) → Nat
  | [] => 0
  | (_, e) :: entries => e.size + sizeAll entries

end

/-- The tree seen on arrival, inside the directories `inside`. The fuel
bounds how deep one can get. -/
def unfoldAt (top : Entry) : Nat → List Location → Arrival → Option FileTree
  | 0, _, _ => none
  | fuel + 1, inside, ⟨loc, links⟩ =>
    match top.get? loc with
    | some (.file content) => some (.file content)
    | some (.folder entries) =>
      some <| .folder <| entries.filterMap fun (name, e) =>
        match e with
        | .link _ => do
          let found ← follow top links loc [name]
          if (loc :: inside).contains found.loc then none
          else (unfoldAt top fuel (loc :: inside) found).map (name, ·)
        | _ => (unfoldAt top fuel (loc :: inside) ⟨loc ++ [name], links⟩).map (name, ·)
    | _ => none

/-- The tree seen at the end of a path from the top. Every link followed
leads to a directory one is not inside of, and between links one can
only go down, so the square of the size is deep enough. -/
def unfold (top : Entry) (path : List FileName) : Option FileTree := do
  let found ← follow top maxLinks [] path
  unfoldAt top ((top.size + 1) * (top.size + 1)) [] found

end Entry

end FxmlCodegen
