import FxmlCodegen.Document.Instruction
import FxmlCodegen.Document.Tag

/-!
# Documents from markup

The tree of a document is built from the events of its text with a stack
of open elements. Nothing is validated but nesting: one root, every
element closed, every include with a source.
-/

namespace FxmlCodegen

open Markup (Event Fault)

/-- A document under construction. -/
structure Builder where
  /-- Elements whose closing tag is still to come, innermost first. -/
  opened : List Element := []
  root : Option Element := none
  instructions : List Instruction := []
  deriving Inhabited

namespace Builder

/-- Puts a complete element into the innermost open one, or at the
root. -/
def attach (b : Builder) (e : Element) : Except Fault Builder :=
  match b.opened, b.root with
  | parent :: opened, _ => .ok { b with opened := parent.addChild e :: opened }
  | [], none => .ok { b with root := some e }
  | [], some _ => .error (.tree (.secondRoot e.head.name))

def step (b : Builder) : Event → Except Fault Builder
  | .start tag => do
    let head ← Head.ofTag tag
    return { b with opened := .leaf head :: b.opened }
  | .empty tag => do
    let head ← Head.ofTag tag
    b.attach (.leaf head)
  | .close =>
    match b.opened with
    | [] => .error (.tree .unexpectedClose)
    | e :: opened => { b with opened := opened }.attach e
  | .instruction content =>
    match Instruction.ofContent? content with
    | some instruction => .ok { b with instructions := b.instructions ++ [instruction] }
    | none => .ok b
  | .other => .ok b

def run (b : Builder) : List Event → Except Fault Builder
  | [] => .ok b
  | event :: events => do (← b.step event).run events

def finish (b : Builder) (name : String) : Except Fault Document :=
  match b.opened with
  | [] => .ok ⟨name, b.root, b.instructions⟩
  | e :: _ => .error (.tree (.unclosed e.head.name))

end Builder

namespace Document

/-- The document a sequence of events spells. -/
def ofEvents (name : String) (events : List Event) : Except Fault Document := do
  (← ({} : Builder).run events).finish name

/-- The document a trace spells: a fault of the text counts once all
events before it have been built. -/
def ofTrace (name : String) (trace : Markup.Trace) : Except Fault Document :=
  match trace.fault with
  | none => ofEvents name trace.events
  | some fault => do
    let _ ← ({} : Builder).run trace.events
    .error fault

/-- Reads a document from its text. -/
def ofMarkup (name source : String) : Except Fault Document := ofTrace name (Markup.trace source)

end Document

end FxmlCodegen
