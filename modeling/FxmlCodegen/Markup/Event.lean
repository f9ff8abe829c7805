import FxmlCodegen.Markup.Fault
import FxmlCodegen.Text.Bytes
import FxmlCodegen.Text.Find

/-!
# Markup events

The sequence of tags and instructions in a text. Text between tags is
skipped unread, and so is the inside of comments, character data and
document types, which leave an `other` event behind. The sequence stops
at the first fault, so `trace` gives the events before it and the fault:
whoever consumes the events meets them in the order of the text.

Closing tags are matched with the open ones here; everything else about
nesting is left to the builder of the tree.
-/

namespace FxmlCodegen.Markup

/-- The four characters markup takes for white space. -/
def isSpace (c : Char) : Bool := c = ' ' || c = '\r' || c = '\n' || c = '\t'

/-- A tag without its brackets: the name and the text after it. -/
structure Tag where
  name : String
  body : String
  deriving DecidableEq, Inhabited

inductive Event where
  | start (tag : Tag)
  | empty (tag : Tag)
  | close
  | instruction (content : String)
  | other
  deriving DecidableEq, Inhabited

/-- The events up to the first fault, if there is one. -/
structure Trace where
  events : List Event
  fault : Option Fault
  deriving DecidableEq, Inhabited

namespace Trace

/-- The text ended. -/
def done : Trace := ⟨[], none⟩

def failed (fault : LexFault) (offset : Nat) : Trace := ⟨[], some (.lex fault offset)⟩

def cons (event : Event) (t : Trace) : Trace := ⟨event :: t.events, t.fault⟩

end Trace

/-! ## Pieces

A piece is what stands between a `<` and its end. Readers of a piece
start after the `<`, at byte `pos`, and tell where the text goes on. -/

inductive Piece where
  /-- A closing tag: the text after the slash, and the byte a mismatch
  is reported at. -/
  | close (raw : List Char) (offset : Nat)
  | event (event : Event)

structure Read where
  piece : Piece
  pos : Nat
  rest : List Char

abbrev ReadResult := Except (LexFault × Nat) Read

/-- The text before the first `stop`, the text after it and how many
bytes the stop itself took; without one, the whole text. -/
def upTo (stop : Char) (cs : List Char) : List Char × List Char × Nat :=
  match Text.cutFirst [stop] cs with
  | some (before, after) => (before, after, 1)
  | none => (cs, [], 0)

/-- Reads `/name>`; the end of the text ends it too. -/
def readClose (pos : Nat) (cs : List Char) : ReadResult :=
  let (raw, rest, stop) := upTo '>' cs
  let offset := pos + stop
  .ok ⟨.close raw offset, offset + 1 + Text.byteLength raw, rest⟩

/-- The instruction is the declaration at the head of an XML file. -/
def isDeclaration (raw : List Char) : Bool :=
  match raw with
  | 'x' :: 'm' :: 'l' :: c :: _ => isSpace c && 4 < Text.byteLength raw
  | _ => false

/-- Reads `?content?>`; quotes do not matter. -/
def readInstruction (pos : Nat) (cs : List Char) : ReadResult :=
  let (raw, rest, stop) := upTo '>' cs
  let offset := pos + stop
  if Text.byteLength raw < 2 || raw.getLast? != some '?' then
    .error (.unfinished .declaration, offset)
  else
    let event :=
      if isDeclaration raw then .other else .instruction (String.ofList raw.dropLast)
    .ok ⟨.event event, offset + 1 + Text.byteLength raw, rest⟩

/-- Reads a comment, given what follows `!-`. The first character may be
anything while the end is looked for, but must turn out to be the second
dash. -/
def readComment (pos : Nat) : List Char → ReadResult
  | [] => .error (.unfinished .comment, pos)
  | c :: cs =>
    match Text.cutFirst ['-', '-', '>'] cs with
    | none => .error (.unfinished .comment, pos)
    | some (text, rest) =>
      let newPos := pos + 2 + c.utf8Size + Text.byteLength text + 3
      if c = '-' then .ok ⟨.event .other, newPos, rest⟩
      else .error (.unfinished .comment, newPos)

/-- The text starts with the word, in any mix of ASCII case. -/
def startsWithWord (word : String) (cs : List Char) : Bool :=
  (cs.take word.length).map Char.toUpper == word.toList

/-- Reads character data, given what follows `![`. -/
def readCdata (pos : Nat) (cs : List Char) : ReadResult :=
  match Text.cutFirst [']', ']', '>'] cs with
  | none => .error (.unfinished .cdata, pos)
  | some (text, rest) =>
    let newPos := pos + 2 + Text.byteLength text + 3
    if startsWithWord "CDATA[" text then .ok ⟨.event .other, newPos, rest⟩
    else .error (.unfinished .cdata, newPos)

/-- The text up to the `>` before which brackets are balanced. -/
def cutBalanced (cs : List Char) : Option (List Char × List Char) :=
  Text.cutWhen (fun depth c => c = '>' && depth == 0)
    (fun depth c => if c = '<' then depth + 1 else if c = '>' then depth - 1 else depth) 0 cs

/-- Reads a document type, given what follows the `!`. -/
def readDoctype (pos : Nat) (cs : List Char) : ReadResult :=
  match cutBalanced cs with
  | none => .error (.unfinished .doctype, pos)
  | some (text, rest) =>
    let newPos := pos + 1 + Text.byteLength text + 1
    if !startsWithWord "DOCTYPE" text then .error (.unfinished .doctype, newPos)
    else if (text.drop 7).all isSpace then .error (.emptyDoctype, newPos)
    else .ok ⟨.event .other, newPos, rest⟩

/-- Reads what follows the `!` of a comment and the like. -/
def readBang (pos : Nat) : List Char → ReadResult
  | [] => .error (.unfinished .bang, pos)
  | '-' :: cs => readComment pos cs
  | '[' :: cs => readCdata pos cs
  | c :: cs =>
    if c = 'D' || c = 'd' then readDoctype pos (c :: cs)
    else .error (.unknownBang (Text.leadByteChar c), pos)

/-- The text up to the first `>` outside quotes. -/
def cutTag (cs : List Char) : Option (List Char × List Char) :=
  Text.cutWhen (fun (quote : Option Char) c => quote.isNone && c = '>')
    (fun quote c =>
      match quote with
      | none => if c = '"' || c = '\'' then some c else none
      | some q => if c = q then none else quote)
    none cs

/-- A tag from the text between its brackets: the name reaches to the
first blank. -/
def Tag.ofContent (content : List Char) : Tag where
  name := String.ofList (content.takeWhile (!isSpace ·))
  body := String.ofList (content.dropWhile (!isSpace ·))

/-- Reads an opening or empty tag. -/
def readTag (pos : Nat) (cs : List Char) : ReadResult :=
  match cutTag cs with
  | none => .error (.unfinished .tag, pos)
  | some (content, rest) =>
    let event :=
      if content.getLast? = some '/' then .empty (Tag.ofContent content.dropLast)
      else .start (Tag.ofContent content)
    .ok ⟨.event event, pos + Text.byteLength content + 1, rest⟩

def readPiece (pos : Nat) : List Char → ReadResult
  | '/' :: cs => readClose pos cs
  | '?' :: cs => readInstruction pos cs
  | '!' :: cs => readBang pos cs
  | cs => readTag pos cs

/-! ## The rest is shorter -/

theorem upTo_after_le (stop : Char) (cs : List Char) : (upTo stop cs).2.1.length ≤ cs.length := by
  unfold upTo
  split
  · rename_i h
    exact Nat.le_of_lt (Text.cutFirst_after_lt (by simp) h)
  · simp

theorem readClose_rest_le {pos : Nat} {cs : List Char} {r : Read}
    (h : readClose pos cs = .ok r) : r.rest.length ≤ cs.length := by
  cases h
  exact upTo_after_le '>' cs

theorem readInstruction_rest_le {pos : Nat} {cs : List Char} {r : Read}
    (h : readInstruction pos cs = .ok r) : r.rest.length ≤ cs.length := by
  have hle := upTo_after_le '>' cs
  unfold readInstruction at h
  rcases hcut : upTo '>' cs with ⟨raw, rest, stop⟩
  rw [hcut] at h hle
  simp only at h
  split at h
  · cases h
  · cases h
    exact hle

theorem readComment_rest_le {pos : Nat} {cs : List Char} {r : Read}
    (h : readComment pos cs = .ok r) : r.rest.length ≤ cs.length := by
  cases cs with
  | nil => cases h
  | cons c cs =>
      rw [readComment] at h
      split at h
      · cases h
      · rename_i hcut
        have hlt := Text.cutFirst_after_lt (by simp) hcut
        simp only at h
        split at h
        · cases h
          exact Nat.le_of_lt (Nat.lt_succ_of_lt hlt)
        · cases h

theorem readCdata_rest_le {pos : Nat} {cs : List Char} {r : Read}
    (h : readCdata pos cs = .ok r) : r.rest.length ≤ cs.length := by
  unfold readCdata at h
  split at h
  · cases h
  · rename_i hcut
    have hlt := Text.cutFirst_after_lt (by simp) hcut
    simp only at h
    split at h
    · cases h
      exact Nat.le_of_lt hlt
    · cases h

theorem readDoctype_rest_le {pos : Nat} {cs : List Char} {r : Read}
    (h : readDoctype pos cs = .ok r) : r.rest.length ≤ cs.length := by
  unfold readDoctype at h
  split at h
  · cases h
  · rename_i hcut
    have hlt := Text.cutWhen_after_lt hcut
    simp only at h
    split at h
    · cases h
    · split at h
      · cases h
      · cases h
        exact Nat.le_of_lt hlt

theorem readBang_rest_le {pos : Nat} {cs : List Char} {r : Read}
    (h : readBang pos cs = .ok r) : r.rest.length ≤ cs.length := by
  unfold readBang at h
  split at h
  · cases h
  · exact Nat.le_succ_of_le (readComment_rest_le h)
  · exact Nat.le_succ_of_le (readCdata_rest_le h)
  · split at h
    · exact readDoctype_rest_le h
    · cases h

theorem readTag_rest_le {pos : Nat} {cs : List Char} {r : Read}
    (h : readTag pos cs = .ok r) : r.rest.length ≤ cs.length := by
  unfold readTag at h
  split at h
  · cases h
  · rename_i hcut
    have hlt := Text.cutWhen_after_lt hcut
    cases h
    exact Nat.le_of_lt hlt

theorem readPiece_rest_le {pos : Nat} {cs : List Char} {r : Read}
    (h : readPiece pos cs = .ok r) : r.rest.length ≤ cs.length := by
  unfold readPiece at h
  split at h
  · exact Nat.le_succ_of_le (readClose_rest_le h)
  · exact Nat.le_succ_of_le (readInstruction_rest_le h)
  · exact Nat.le_succ_of_le (readBang_rest_le h)
  · exact readTag_rest_le h

/-! ## The whole text -/

/-- The name in a closing tag: blanks behind it do not count, unless
there is nothing else. -/
def closingName (raw : List Char) : List Char :=
  if raw.all isSpace then raw else (raw.reverse.dropWhile isSpace).reverse

/-- The events of the text at byte `pos`, inside the tags named
`opened`, innermost first. -/
def traceFrom (opened : List String) (pos : Nat) (cs : List Char) : Trace :=
  match _cut : Text.cutFirst ['<'] cs with
  | none => .done
  | some (_, []) => .done
  | some (text, next :: cs') =>
    match _read : readPiece (pos + Text.byteLength text + 1) (next :: cs') with
    | .error (fault, offset) => .failed fault offset
    | .ok ⟨.close raw offset, pos', rest⟩ =>
      match opened with
      | [] => .failed (.mismatchedClose "" (String.ofList raw)) offset
      | name :: opened =>
        let found := String.ofList (closingName raw)
        if found = name then (traceFrom opened pos' rest).cons .close
        else .failed (.mismatchedClose name found) offset
    | .ok ⟨.event (.start tag), pos', rest⟩ =>
      (traceFrom (tag.name :: opened) pos' rest).cons (.start tag)
    | .ok ⟨.event event, pos', rest⟩ => (traceFrom opened pos' rest).cons event
termination_by cs.length
decreasing_by
  all_goals
    have hcut := Text.cutFirst_after_lt (by simp) _cut
    have hread := readPiece_rest_le _read
    simp only at hread
    omega

/-- The events of a text. A byte order mark in front is not part of it. -/
def trace (source : String) : Trace :=
  match source.toList with
  | '\uFEFF' :: cs => traceFrom [] 0 cs
  | cs => traceFrom [] 0 cs

end FxmlCodegen.Markup
