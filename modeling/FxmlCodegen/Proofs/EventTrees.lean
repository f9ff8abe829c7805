import FxmlCodegen.Document.Reader
import FxmlCodegen.Proofs.Attempts
import Mathlib.Data.List.Forall2

/-!
# Trees from events

The builder of trees takes exactly the event sequences that nest and have
at most one root (`Markup.SingleRooted`), and loses nothing of them: the
tree, written down in document order with the depth of each element
(`Element.outline`), is the sequence of tags with the number of elements
open around each (`Markup.nested`).

Both are inductions over the events with the builder anywhere on its way.
For acceptance the state is two numbers, how many elements are open and
how many have begun at the top (`Builder.rootCount`): a second one of these
is what the builder refuses, at the moment it is complete and not when it
begins. `Builder.run_complete_iff` says when the rest of the events brings
a builder to its end.

For the tree the state is the outline of all that was read so far
(`Builder.outline`), complete or not. A tag adds one line to it and a
closing tag none, since an element moves from the stack into its parent
without changing its place in the order or its depth (`Builder.step_grows`).
-/

namespace FxmlCodegen

open Markup (Event Fault Tag Trace)

/-! ## Events -/

namespace Markup

namespace Event

def isStart : Event → Bool
  | .start _ => true
  | _ => false

def isClose : Event → Bool
  | .close => true
  | _ => false

/-- The tag of an element that begins with the event. -/
def tag? : Event → Option Tag
  | .start tag | .empty tag => some tag
  | _ => none

/-- The instruction the event spells, if it is one that is known. -/
def instruction? : Event → Option Instruction
  | .instruction content => Instruction.ofContent? content
  | _ => none

/-- How many elements are open after the event. A closing tag too many
closes none. -/
def depthAfter (depth : Nat) : Event → Nat
  | .start _ => depth + 1
  | .close => depth - 1
  | _ => depth

end Event

/-- If the tag is an include, it has a source. -/
def Tag.HasSource (tag : Tag) : Prop :=
  tag.name = "fx:include" →
    ∃ pairs source, tag.attributes = .ok pairs ∧ pairs.lookup "source" = some source

/-- The tags with the number of elements open around each, where `depth`
are open at the start. -/
def nested (depth : Nat) : List Event → List (Nat × Tag)
  | [] => []
  | event :: events =>
    (event.tag?.map fun tag => (depth, tag)).toList ++ nested (event.depthAfter depth) events

/-- The events nest, every include among them has a source and at most one
element is not inside another. -/
structure SingleRooted (events : List Event) : Prop where
  sourced : ∀ tag ∈ events.filterMap Event.tag?, tag.HasSource
  closesOpen : ∀ n, (events.take n).countP Event.isClose ≤ (events.take n).countP Event.isStart
  closesAll : events.countP Event.isClose = events.countP Event.isStart
  oneRoot : (nested 0 events).countP (·.1 = 0) ≤ 1

end Markup

/-! ## Tags -/

namespace Head

/-- Only an include without a source has no kind. -/
theorem exists_kindAndName_iff {tag : String} {pairs : List (String × String)} :
    (∃ kindName, kindAndName tag pairs = .ok kindName)
      ↔ (tag = "fx:include" → ∃ source, pairs.lookup "source" = some source) := by
  have hinclude : tag = "fx:include" ↔ Text.dropStart? "fx:" tag = some "include" := by
    rw [Text.dropStart?_eq_some]
    rfl
  unfold kindAndName
  rw [hinclude]
  split
  case h_2 hdrop =>
    rw [hdrop]
    cases pairs.lookup "source" with
    | none => simp
    | some source => simp
  all_goals simp_all

theorem exists_ofTag_iff {tag : Tag} :
    (∃ head, ofTag tag = .ok head) ↔ (∃ pairs, tag.attributes = .ok pairs) ∧ tag.HasSource := by
  unfold ofTag Tag.HasSource
  simp only [bind_eq_ok]
  constructor
  · rintro ⟨head, pairs, hpairs, ⟨kind, name⟩, hkind, -⟩
    refine ⟨⟨pairs, hpairs⟩, fun hname => ?_⟩
    obtain ⟨source, hsource⟩ := exists_kindAndName_iff.mp ⟨_, hkind⟩ hname
    exact ⟨pairs, source, hpairs, hsource⟩
  · rintro ⟨⟨pairs, hpairs⟩, hsource⟩
    obtain ⟨⟨kind, name⟩, hkind⟩ := exists_kindAndName_iff.mpr fun hname => by
      obtain ⟨pairs', source, hpairs', hlookup⟩ := hsource hname
      rw [hpairs] at hpairs'
      cases hpairs'
      exact ⟨source, hlookup⟩
    exact ⟨_, pairs, hpairs, (kind, name), hkind, rfl⟩

end Head

/-! ## One event -/

namespace Builder

variable {b b' : Builder} {e : Element} {event : Event}

theorem attach_ok (hok : b.attach e = .ok b') :
    (∃ parent opened, b.opened = parent :: opened
      ∧ b' = { b with opened := parent.addChild e :: opened })
    ∨ (b.opened = [] ∧ b.root = none ∧ b' = { b with root := some e }) := by
  unfold attach at hok
  split at hok
  · rename_i parent opened hopened
    cases hok
    exact Or.inl ⟨parent, opened, hopened, rfl⟩
  · rename_i hopened hroot
    cases hok
    exact Or.inr ⟨hopened, hroot, rfl⟩
  · cases hok

theorem exists_attach (hfree : b.opened = [] → b.root = none) : ∃ b', b.attach e = .ok b' := by
  unfold attach
  split
  · exact ⟨_, rfl⟩
  · exact ⟨_, rfl⟩
  · rename_i root hopened hroot
    rw [hfree hopened] at hroot
    cases hroot

/-- All that an event can do to a builder. -/
theorem step_ok (hok : b.step event = .ok b') :
    (∃ tag head, event = .start tag ∧ Head.ofTag tag = .ok head
      ∧ b' = { b with opened := .leaf head :: b.opened })
    ∨ (∃ tag head, event = .empty tag ∧ Head.ofTag tag = .ok head ∧ b.attach (.leaf head) = .ok b')
    ∨ (∃ e opened, event = .close ∧ b.opened = e :: opened
      ∧ { b with opened := opened }.attach e = .ok b')
    ∨ (event.tag? = none ∧ (∀ depth, event.depthAfter depth = depth)
      ∧ b' = { b with instructions := b.instructions ++ event.instruction?.toList }) := by
  cases event with
  | start tag =>
      obtain ⟨head, hhead, hok⟩ := bind_eq_ok.mp hok
      cases hok
      exact Or.inl ⟨tag, head, rfl, hhead, rfl⟩
  | empty tag =>
      obtain ⟨head, hhead, hok⟩ := bind_eq_ok.mp hok
      exact Or.inr (Or.inl ⟨tag, head, rfl, hhead, hok⟩)
  | close =>
      rw [step] at hok
      split at hok
      · cases hok
      · rename_i e opened hopened
        exact Or.inr (Or.inr (Or.inl ⟨e, opened, rfl, hopened, hok⟩))
  | instruction content =>
      refine Or.inr (Or.inr (Or.inr ⟨rfl, fun _ => rfl, ?_⟩))
      rw [step] at hok
      split at hok
      · rename_i instruction hinstruction
        cases hok
        rw [Event.instruction?, hinstruction, Option.toList_some]
      · rename_i hinstruction
        cases hok
        rw [Event.instruction?, hinstruction, Option.toList_none, List.append_nil]
  | other =>
      cases hok
      exact Or.inr (Or.inr (Or.inr ⟨rfl, fun _ => rfl, by simp [Event.instruction?]⟩))

end Builder

/-! ## Acceptance -/

namespace Markup

/-- How many elements have begun at the top, where `depth` are open and
`roots` have begun there before the event. -/
def Event.rootsAfter (depth roots : Nat) (event : Event) : Nat :=
  if event.tag?.isSome ∧ depth = 0 then roots + 1 else roots

/-- The tag of the event, if it has one, can be read, and there is an
element for it to close, if it closes one. -/
structure Event.Fits (depth : Nat) (event : Event) : Prop where
  readable : ∀ tag ∈ event.tag?, ∃ head, Head.ofTag tag = .ok head
  closes : event.isClose = true → 0 < depth

/-- The events complete what has begun, with `depth` elements open and
`roots` begun at the top. -/
structure Completes (depth roots : Nat) (events : List Event) : Prop where
  readable : ∀ tag ∈ events.filterMap Event.tag?, ∃ head, Head.ofTag tag = .ok head
  closesOpen : ∀ n,
    (events.take n).countP Event.isClose ≤ depth + (events.take n).countP Event.isStart
  closesAll : events.countP Event.isClose = depth + events.countP Event.isStart
  oneRoot : roots + (nested depth events).countP (·.1 = 0) ≤ 1

/-- An event changes the number of open elements by what it counts as. -/
theorem depthAfter_balance {depth : Nat} {event : Event} (hclose : event.isClose = true → 0 < depth)
    (events : List Event) :
    event.depthAfter depth + events.countP Event.isStart + (event :: events).countP Event.isClose
      = depth + (event :: events).countP Event.isStart + events.countP Event.isClose := by
  cases event with
  | start tag =>
      simp [Event.depthAfter, List.countP_cons, Event.isClose, Event.isStart]
      omega
  | close =>
      have hdepth := hclose rfl
      simp [Event.depthAfter, List.countP_cons, Event.isClose, Event.isStart]
      omega
  | _ => simp [Event.depthAfter, Event.isClose, Event.isStart]

theorem completes_cons {depth roots : Nat} {event : Event} {events : List Event} :
    Completes depth roots (event :: events)
      ↔ event.Fits depth
        ∧ Completes (event.depthAfter depth) (event.rootsAfter depth roots) events := by
  have hreadable : (∀ tag ∈ (event :: events).filterMap Event.tag?, ∃ head, Head.ofTag tag = .ok head)
      ↔ (∀ tag ∈ event.tag?, ∃ head, Head.ofTag tag = .ok head)
        ∧ ∀ tag ∈ events.filterMap Event.tag?, ∃ head, Head.ofTag tag = .ok head := by
    rw [List.filterMap_cons]
    cases event.tag? <;> simp
  have hroots : roots + (nested depth (event :: events)).countP (·.1 = 0)
      = event.rootsAfter depth roots
        + (nested (event.depthAfter depth) events).countP (·.1 = 0) := by
    rw [nested, List.countP_append, Event.rootsAfter, ← Nat.add_assoc]
    cases event.tag? <;> by_cases hdepth : depth = 0 <;> simp [hdepth]
  constructor
  · rintro ⟨hread, hopen, hall, hone⟩
    have hclose : event.isClose = true → 0 < depth := by
      intro hclose
      cases event with
      | close =>
          have hfirst : 1 ≤ depth := by simpa [Event.isClose, Event.isStart] using hopen 1
          exact hfirst
      | _ => cases hclose
    refine ⟨⟨(hreadable.mp hread).1, hclose⟩, (hreadable.mp hread).2, fun n => ?_, ?_, ?_⟩
    · have hbalance := depthAfter_balance hclose (events.take n)
      have hprefix := hopen (n + 1)
      rw [List.take_succ_cons] at hprefix
      omega
    · have hbalance := depthAfter_balance hclose events
      omega
    · rw [← hroots]
      exact hone
  · rintro ⟨⟨hread, hclose⟩, hread', hopen, hall, hone⟩
    refine ⟨hreadable.mpr ⟨hread, hread'⟩, fun n => ?_, ?_, ?_⟩
    · cases n with
      | zero => exact Nat.zero_le _
      | succ n =>
          have hbalance := depthAfter_balance hclose (events.take n)
          have hprefix := hopen n
          rw [List.take_succ_cons]
          omega
    · have hbalance := depthAfter_balance hclose events
      omega
    · rw [hroots]
      exact hone

end Markup

namespace Builder

variable {b b' : Builder} {event : Event}

/-- How many elements have begun at the top: the root, and the outermost
of those that are open. -/
def rootCount (b : Builder) : Nat := b.root.toList.length + (if b.opened.isEmpty then 0 else 1)

theorem step_counts (hok : b.step event = .ok b') :
    event.Fits b.opened.length
      ∧ b'.opened.length = event.depthAfter b.opened.length
      ∧ b'.rootCount = event.rootsAfter b.opened.length b.rootCount := by
  rcases step_ok hok with ⟨tag, head, rfl, hhead, rfl⟩ | ⟨tag, head, rfl, hhead, hattach⟩
    | ⟨e, opened, rfl, hopened, hattach⟩ | ⟨htag, hdepth, rfl⟩
  · refine ⟨⟨?_, fun h => ?_⟩, rfl, ?_⟩
    · rintro tag ⟨⟩
      exact ⟨head, hhead⟩
    · cases h
    · cases hopened : b.opened <;> simp [rootCount, Event.rootsAfter, Event.tag?, hopened]
  · refine ⟨⟨?_, fun h => ?_⟩, ?_⟩
    · rintro tag ⟨⟩
      exact ⟨head, hhead⟩
    · cases h
    · rcases attach_ok hattach with ⟨parent, opened, hopened, rfl⟩ | ⟨hopened, hroot, rfl⟩
      · simp [rootCount, Event.rootsAfter, Event.depthAfter, Event.tag?, hopened]
      · simp [rootCount, Event.rootsAfter, Event.depthAfter, Event.tag?, hopened, hroot]
  · refine ⟨⟨?_, fun _ => ?_⟩, ?_⟩
    · rintro tag ⟨⟩
    · simp [hopened]
    · rcases attach_ok hattach with ⟨parent, outer, houter, rfl⟩ | ⟨hnone, hroot, rfl⟩
      · simp_all [rootCount, Event.rootsAfter, Event.depthAfter, Event.tag?]
      · simp_all [rootCount, Event.rootsAfter, Event.depthAfter, Event.tag?]
  · refine ⟨⟨?_, fun h => ?_⟩, (hdepth _).symm, ?_⟩
    · rw [htag]
      rintro tag ⟨⟩
    · cases event <;> cases h
      simpa [Event.depthAfter] using hdepth 1
    · simp [rootCount, Event.rootsAfter, htag]

theorem exists_step (hfits : event.Fits b.opened.length)
    (hroots : event.rootsAfter b.opened.length b.rootCount ≤ 1) :
    ∃ b', b.step event = .ok b' := by
  obtain ⟨hread, hclose⟩ := hfits
  cases event with
  | start tag =>
      obtain ⟨head, hhead⟩ := hread tag rfl
      exact ⟨_, bind_eq_ok.mpr ⟨head, hhead, rfl⟩⟩
  | empty tag =>
      obtain ⟨head, hhead⟩ := hread tag rfl
      obtain ⟨b', hattach⟩ := exists_attach (b := b) (e := .leaf head) (by
        simp_all [Event.rootsAfter, Event.tag?, rootCount])
      exact ⟨b', bind_eq_ok.mpr ⟨head, hhead, hattach⟩⟩
  | close =>
      cases hopened : b.opened with
      | nil => simp_all [Event.isClose]
      | cons e opened =>
          obtain ⟨b', hattach⟩ := exists_attach (b := { b with opened := opened }) (e := e) (by
            simp_all [Event.rootsAfter, Event.tag?, rootCount])
          refine ⟨b', ?_⟩
          rw [step, hopened]
          exact hattach
  | instruction content =>
      rw [step]
      split
      · exact ⟨_, rfl⟩
      · exact ⟨_, rfl⟩
  | other => exact ⟨b, rfl⟩

theorem run_complete_iff : ∀ (events : List Event) (b : Builder),
    (∃ b', b.run events = .ok b' ∧ b'.opened = [])
      ↔ Markup.Completes b.opened.length b.rootCount events
  | [], b => by
      have hnil : (∃ b', b.run [] = .ok b' ∧ b'.opened = []) ↔ b.opened = [] := by
        simp [run]
      rw [hnil]
      constructor
      · intro hopened
        refine ⟨by simp, by simp, by simp [hopened], ?_⟩
        cases hroot : b.root <;> simp [rootCount, Markup.nested, hopened, hroot]
      · intro hcompletes
        exact List.length_eq_zero_iff.mp hcompletes.closesAll.symm
  | event :: events, b => by
      rw [Markup.completes_cons]
      constructor
      · rintro ⟨b', hrun, hend⟩
        obtain ⟨next, hstep, hrest⟩ := bind_eq_ok.mp hrun
        obtain ⟨hfits, hdepth, hroots⟩ := step_counts hstep
        rw [← hdepth, ← hroots]
        exact ⟨hfits, (run_complete_iff events next).mp ⟨b', hrest, hend⟩⟩
      · rintro ⟨hfits, hcompletes⟩
        have hone : event.rootsAfter b.opened.length b.rootCount ≤ 1 :=
          Nat.le_trans (Nat.le_add_right _ _) hcompletes.oneRoot
        obtain ⟨next, hstep⟩ := exists_step hfits hone
        obtain ⟨-, hdepth, hroots⟩ := step_counts hstep
        rw [← hdepth, ← hroots] at hcompletes
        obtain ⟨b', hrest, hend⟩ := (run_complete_iff events next).mpr hcompletes
        exact ⟨b', bind_eq_ok.mpr ⟨next, hstep, hrest⟩, hend⟩

end Builder

theorem Markup.readable_and_singleRooted_iff {events : List Event} :
    (∀ tag ∈ events.filterMap Event.tag?, ∃ pairs, tag.attributes = .ok pairs)
        ∧ SingleRooted events
      ↔ Completes 0 0 events := by
  constructor
  · rintro ⟨hread, hsourced, hopen, hall, hone⟩
    refine ⟨fun tag htag => Head.exists_ofTag_iff.mpr ⟨hread tag htag, hsourced tag htag⟩, ?_, ?_, ?_⟩
    · simpa using hopen
    · simpa using hall
    · simpa using hone
  · rintro ⟨hread, hopen, hall, hone⟩
    refine ⟨fun tag htag => (Head.exists_ofTag_iff.mp (hread tag htag)).1,
      fun tag htag => (Head.exists_ofTag_iff.mp (hread tag htag)).2, ?_, ?_, ?_⟩
    · simpa using hopen
    · simpa using hall
    · simpa using hone

/-! ## The tree -/

namespace Element

mutual

/-- The heads of the tree, each before those of its children, with the
depth of each; the element itself is at `depth`. -/
def outline (depth : Nat) : Element → List (Nat × Head)
  | mk h cs => (depth, h) :: outlineAll (depth + 1) cs

def outlineAll (depth : Nat) : List Element → List (Nat × Head)
  | [] => []
  | e :: es => e.outline depth ++ outlineAll depth es

end

theorem outlineAll_append (depth : Nat) (es fs : List Element) :
    outlineAll depth (es ++ fs) = outlineAll depth es ++ outlineAll depth fs := by
  induction es with
  | nil => rfl
  | cons e es ih => rw [List.cons_append, outlineAll, outlineAll, ih, List.append_assoc]

theorem outline_addChild (depth : Nat) (parent e : Element) :
    (parent.addChild e).outline depth = parent.outline depth ++ e.outline (depth + 1) := by
  obtain ⟨h, cs⟩ := parent
  rw [addChild, outline, outline, outlineAll_append, outlineAll, outlineAll, List.append_nil]
  rfl

end Element

/-- The heads of the document in order, with their depth below the root. -/
def Document.outline (d : Document) : List (Nat × Head) :=
  match d.root with
  | some root => root.outline 0
  | none => []

/-- The line of an outline that a tag at some depth gives. -/
def Spells (tag : Nat × Tag) (line : Nat × Head) : Prop :=
  line.1 = tag.1 ∧ Head.ofTag tag.2 = .ok line.2

namespace Builder

variable {b b' : Builder} {e : Element} {event : Event}

/-- The heads in open elements, outermost first. -/
def openOutline : List Element → List (Nat × Head)
  | [] => []
  | e :: opened => openOutline opened ++ e.outline opened.length

/-- The heads read so far. -/
def outline (b : Builder) : List (Nat × Head) :=
  (match b.root with
    | some root => root.outline 0
    | none => []) ++ openOutline b.opened

theorem attach_outline (hok : b.attach e = .ok b') :
    b'.outline = b.outline ++ e.outline b.opened.length ∧ b'.instructions = b.instructions := by
  rcases attach_ok hok with ⟨parent, opened, hopened, rfl⟩ | ⟨hopened, hroot, rfl⟩
  · simp [outline, openOutline, hopened, Element.outline_addChild]
  · simp [outline, openOutline, hopened, hroot]

theorem step_grows (hok : b.step event = .ok b') :
    ∃ lines, List.Forall₂ Spells (event.tag?.map fun tag => (b.opened.length, tag)).toList lines
      ∧ b'.outline = b.outline ++ lines
      ∧ b'.instructions = b.instructions ++ event.instruction?.toList := by
  rcases step_ok hok with ⟨tag, head, rfl, hhead, rfl⟩ | ⟨tag, head, rfl, hhead, hattach⟩
    | ⟨e, opened, rfl, hopened, hattach⟩ | ⟨htag, -, rfl⟩
  · refine ⟨[(b.opened.length, head)], .cons ⟨rfl, hhead⟩ .nil, ?_, ?_⟩
    · simp [outline, openOutline, Element.leaf, Element.outline, Element.outlineAll]
    · simp [Event.instruction?]
  · obtain ⟨houtline, hinstructions⟩ := attach_outline hattach
    refine ⟨[(b.opened.length, head)], .cons ⟨rfl, hhead⟩ .nil, ?_, ?_⟩
    · simpa [Element.leaf, Element.outline, Element.outlineAll] using houtline
    · simp [hinstructions, Event.instruction?]
  · obtain ⟨houtline, hinstructions⟩ := attach_outline hattach
    refine ⟨[], .nil, ?_, ?_⟩
    · simpa [outline, openOutline, hopened] using houtline
    · simp [hinstructions, Event.instruction?]
  · exact ⟨[], by rw [htag]; exact .nil, by simp [outline], rfl⟩

theorem run_grows : ∀ {events : List Event} {b b' : Builder}, b.run events = .ok b' →
    ∃ lines, List.Forall₂ Spells (Markup.nested b.opened.length events) lines
      ∧ b'.outline = b.outline ++ lines
      ∧ b'.instructions = b.instructions ++ events.filterMap Event.instruction?
  | [], b, b', hok => by
      cases hok
      exact ⟨[], .nil, by simp, by simp⟩
  | event :: events, b, b', hok => by
      obtain ⟨next, hstep, hrest⟩ := bind_eq_ok.mp hok
      obtain ⟨-, hdepth, -⟩ := step_counts hstep
      obtain ⟨lines, hlines, houtline, hinstructions⟩ := step_grows hstep
      obtain ⟨lines', hlines', houtline', hinstructions'⟩ := run_grows hrest
      rw [hdepth] at hlines'
      refine ⟨lines ++ lines', List.rel_append hlines hlines', ?_, ?_⟩
      · rw [houtline', houtline, List.append_assoc]
      · rw [hinstructions', hinstructions, List.append_assoc, List.filterMap_cons]
        cases event.instruction? <;> simp

end Builder

/-! ## Documents -/

/-- The document is what the events spell: its elements are those that
begin among the events, in order and each at its depth, and its
instructions are the known ones. -/
structure Document.SpelledBy (d : Document) (name : String) (events : List Event) : Prop where
  name : d.name = name
  elements : List.Forall₂ Spells (Markup.nested 0 events) d.outline
  instructions : d.instructions = events.filterMap Event.instruction?

namespace Document

variable {name : String} {trace : Trace} {d : Document}

theorem ofTrace_eq_ok : ofTrace name trace = .ok d
    ↔ trace.fault = none ∧ ∃ b, ({} : Builder).run trace.events = .ok b ∧ b.opened = []
      ∧ d = ⟨name, b.root, b.instructions⟩ := by
  unfold ofTrace
  cases trace.fault with
  | some fault =>
      constructor
      · intro hok
        obtain ⟨-, -, hok⟩ := bind_eq_ok.mp hok
        cases hok
      · rintro ⟨hfault, -⟩
        cases hfault
  | none =>
      simp only [ofEvents, bind_eq_ok, true_and]
      refine exists_congr fun b => and_congr_right fun _ => ?_
      unfold Builder.finish
      cases b.opened with
      | nil => simp [eq_comm]
      | cons e opened => simp

/-- Reading succeeds exactly if the text has no fault, all its tags can be
read and its events nest around at most one root with every include
sourced. The document is then what the events spell. -/
theorem ofTrace_ok_iff (name : String) (trace : Trace) :
    ((∃ d, ofTrace name trace = .ok d)
      ↔ trace.fault = none
        ∧ (∀ tag ∈ trace.events.filterMap Event.tag?, ∃ pairs, tag.attributes = .ok pairs)
        ∧ Markup.SingleRooted trace.events)
    ∧ ∀ d, ofTrace name trace = .ok d → d.SpelledBy name trace.events := by
  constructor
  · rw [Markup.readable_and_singleRooted_iff]
    have haccepts := Builder.run_complete_iff trace.events {}
    simp only [ofTrace_eq_ok]
    constructor
    · rintro ⟨d, hfault, b, hrun, hopened, -⟩
      exact ⟨hfault, haccepts.mp ⟨b, hrun, hopened⟩⟩
    · rintro ⟨hfault, hcompletes⟩
      obtain ⟨b, hrun, hopened⟩ := haccepts.mpr hcompletes
      exact ⟨_, hfault, b, hrun, hopened, rfl⟩
  · intro d hok
    obtain ⟨-, b, hrun, hopened, rfl⟩ := ofTrace_eq_ok.mp hok
    obtain ⟨lines, hlines, houtline, hinstructions⟩ := Builder.run_grows hrun
    refine ⟨rfl, ?_, by simpa using hinstructions⟩
    have hdocument : b.outline = outline ⟨name, b.root, b.instructions⟩ := by
      simp [Builder.outline, Builder.openOutline, hopened, outline]
    rw [← hdocument, houtline]
    exact hlines

/-- A root with an empty and a nested child, among an instruction that is
known, one that is not and a comment. -/
def nestedTrace : Trace where
  events := [.instruction "import javafx.scene.layout.*", .instruction "style main", .other,
    .start ⟨"VBox", " spacing=\"4\""⟩, .empty ⟨"Label", ""⟩, .start ⟨"children", ""⟩,
    .empty ⟨"fx:include", " source=\"Child.fxml\""⟩, .close, .close]
  fault := none

/-- Two elements, neither inside the other. -/
def twoRoots : Trace where
  events := [.empty ⟨"VBox", ""⟩, .start ⟨"HBox", ""⟩, .close]
  fault := none

theorem ofTrace_ok_iff_nestedTrace :
    (∃ d, ofTrace "Main" nestedTrace = .ok d
      ∧ Markup.SingleRooted nestedTrace.events
      ∧ d.SpelledBy "Main" nestedTrace.events
      ∧ d.outline.map (fun line => (line.1, line.2.name))
        = [(0, "VBox"), (1, "Label"), (1, "children"), (2, "include")]
      ∧ d.instructions = [.import "javafx.scene.layout" true])
    ∧ ¬ ∃ d, ofTrace "Main" twoRoots = .ok d := by
  have hview : (ofTrace "Main" nestedTrace).toOption.map
      (fun d => (d.outline.map fun line => (line.1, line.2.name), d.instructions))
        = some ([(0, "VBox"), (1, "Label"), (1, "children"), (2, "include")],
          [.import "javafx.scene.layout" true]) := by decide +kernel
  obtain ⟨haccepts, hspells⟩ := ofTrace_ok_iff "Main" nestedTrace
  refine ⟨?_, fun hok => ?_⟩
  · cases hok : ofTrace "Main" nestedTrace with
    | error fault =>
        rw [hok] at hview
        cases hview
    | ok d =>
        rw [hok] at hview
        obtain ⟨houtline, hinstructions⟩ := Prod.mk.inj (Option.some.inj hview)
        exact ⟨d, rfl, (haccepts.mp ⟨d, hok⟩).2.2, hspells d hok, houtline, hinstructions⟩
  · obtain ⟨-, -, hsingle⟩ := (ofTrace_ok_iff "Main" twoRoots).1.mp hok
    exact absurd hsingle.oneRoot (by decide)

end Document

end FxmlCodegen
