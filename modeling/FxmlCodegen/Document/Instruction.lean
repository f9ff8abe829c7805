import FxmlCodegen.Document.Basic
import FxmlCodegen.Text.Blank
import FxmlCodegen.Text.WordChar

/-!
# Instructions from their text

The two processing instructions code generation knows: `import`, with a
dotted path, an optional `.*` and an optional semicolon, and `language`
with one word. Any other instruction is none of its business.
-/

namespace FxmlCodegen.Instruction

open Text (isBlank)

/-! ## Import paths -/

def isAsciiLetter (c : Char) : Bool := ('a' ≤ c && c ≤ 'z') || ('A' ≤ c && c ≤ 'Z')

def startsSegment (c : Char) : Bool := isAsciiLetter c || c = '_' || c = '$'

def continuesSegment (c : Char) : Bool := Text.isWordChar c || c = '$'

/-- Reads a dotted path as far as it goes; `inside` tells whether the
text before belongs to a segment. Gives the path and what follows. -/
def readPath (inside : Bool) : List Char → List Char × List Char
  | [] => ([], [])
  | [c] =>
    if (if inside then continuesSegment c else startsSegment c) then ([c], []) else ([], [c])
  | c :: d :: cs =>
    if (if inside then continuesSegment c else startsSegment c) then
      let (path, rest) := readPath true (d :: cs)
      (c :: path, rest)
    else if inside && c = '.' && startsSegment d then
      let (path, rest) := readPath false (d :: cs)
      (c :: path, rest)
    else
      ([], c :: d :: cs)

/-! ## Instructions -/

/-- What may follow a path: blanks, at most one semicolon, blanks. -/
def isImportEnd (cs : List Char) : Bool :=
  match cs.dropWhile isBlank with
  | ';' :: cs => cs.all isBlank
  | cs => cs.isEmpty

/-- The text after a keyword and at least one blank. -/
def afterKeyword? (keyword : String) (cs : List Char) : Option (List Char) :=
  if keyword.toList.isPrefixOf cs then
    match cs.drop keyword.length with
    | c :: rest => if isBlank c then some (rest.dropWhile isBlank) else none
    | [] => none
  else
    none

def importOfText? (cs : List Char) : Option Instruction := do
  let (path, rest) := readPath false (← afterKeyword? "import" cs)
  if path.isEmpty then none
  else
    match rest with
    | '.' :: '*' :: rest =>
      if isImportEnd rest then some (.import (String.ofList path) true) else none
    | rest => if isImportEnd rest then some (.import (String.ofList path) false) else none

def languageOfText? (cs : List Char) : Option Instruction := do
  let word ← afterKeyword? "language" cs
  if word.isEmpty || word.any isBlank then none else some (.language (String.ofList word))

/-- The instruction a processing instruction's content spells, if it is
one of the two. -/
def ofContent? (content : String) : Option Instruction :=
  let cs := Text.trim content.toList
  importOfText? cs <|> languageOfText? cs

end FxmlCodegen.Instruction
