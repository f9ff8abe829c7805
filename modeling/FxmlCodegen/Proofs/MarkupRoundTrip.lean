import FxmlCodegen.Document.Reader
import FxmlCodegen.Proofs.InstructionText
import FxmlCodegen.Proofs.TagText

/-!
# Documents written and read back

The plainest markup for a document (`Document.markup`): its instructions,
then each element as a start tag, its children and an end tag. Reading it
gives the document again (`Document.ofMarkup_markup`), for every document
a reader could have made from plain names (`Document.Spellable`). Values
may hold any text.

The argument goes by layers. Text of tags and instructions has the events
one expects (`TagText`, `InstructionText`), so the text of an element has
the events of the element (`Element.adds_markup`). A start tag spells the
head it was written for (`Head.Spellable.ofTag_eq`): attributes with a
meaning of their own are told apart from the others by their keys. And
events of an element, built, put that element where the builder stands
(`Builder.run_events`).
-/

namespace FxmlCodegen

open Markup (Adds Event IsTagName Tag writePairs)

/-! ## Names -/

/-- ASCII letters, digits, `_` and `.`. -/
def isPlainChar (c : Char) : Bool := c.isAlphanum || c = '_' || c = '.'

/-- The text can stand as a name outside the `fx:` name space. -/
structure IsPlainName (name : String) : Prop where
  ne_empty : name ≠ ""
  all : name.toList.all isPlainChar = true

instance (name : String) : Decidable (IsPlainName name) :=
  decidable_of_iff (name ≠ "" ∧ name.toList.all isPlainChar = true)
    ⟨fun h => ⟨h.1, h.2⟩, fun h => ⟨h.1, h.2⟩⟩

theorem isTagChar_of_isPlainChar {c : Char} (hc : isPlainChar c = true) :
    Markup.isTagChar c = true := by
  rw [isPlainChar] at hc
  rw [Markup.isTagChar, hc, Bool.true_or]

theorem all_isTagChar {cs : List Char} (hcs : cs.all isPlainChar = true) :
    cs.all Markup.isTagChar = true :=
  List.all_eq_true.mpr fun c hc => isTagChar_of_isPlainChar (List.all_eq_true.mp hcs c hc)

theorem IsPlainName.isTagName {name : String} (hname : IsPlainName name) : IsTagName name :=
  ⟨hname.ne_empty, all_isTagChar hname.all⟩

theorem IsPlainName.colon_not_mem {name : String} (hname : IsPlainName name) :
    ':' ∉ name.toList := by
  intro hmem
  have hcolon := List.all_eq_true.mp hname.all ':' hmem
  revert hcolon
  decide

/-! ## Heads -/

/-- What follows `fx:` in the tags with a meaning of their own. -/
def fxElements : List String := ["include", "root", "reference", "copy", "define", "script"]

namespace Head

/-- The name of the tag. -/
def tagName (h : Head) : String :=
  match h.kind with
  | .include _ => "fx:include"
  | .root => "fx:root"
  | _ => h.name

/-- The attribute that goes with the kind. -/
def kindPair? (h : Head) : Option (String × String) :=
  match h.kind with
  | .declaration controller => controller.map (("fx:controller", ·))
  | .include source => some ("source", source)
  | .root => some ("type", h.name)
  | _ => none

/-- The attributes that say what the element is. -/
def ownPairs (h : Head) : List (String × String) :=
  (h.fxId.map (("fx:id", ·))).toList ++ h.kindPair?.toList

/-- All attributes in the order they are written. -/
def pairs (h : Head) : List (String × String) :=
  h.ownPairs ++ h.attributes.map fun a => (a.name, a.value)

/-- The name is one that a reader gives elements of this kind. -/
def NamesKind (h : Head) : Prop :=
  match h.kind with
  | .declaration controller =>
    IsPlainName h.name ∧ plainKind h.name controller = .declaration controller
  | .property kind => IsPlainName h.name ∧ plainKind h.name none = .property kind
  | .include _ => h.name = "include"
  | .root => True
  | .reference => h.name = "fx:reference"
  | .copy => h.name = "fx:copy"
  | .define => h.name = "fx:define"
  | .script => h.name = "fx:script"
  | .unknownType => ∃ suffix, h.name = "fx:" ++ suffix
      ∧ suffix.toList.all isPlainChar = true ∧ suffix ∉ fxElements
  | .unknownStaticProperty => False

/-- A reader could have made the head from plain names. -/
structure Spellable (h : Head) : Prop where
  unnamed : h.identifier = none
  kind : h.NamesKind
  id : h.id = (h.attribute? "id").map Attribute.value
  /-- The attributes are of those that are kept, and of the kind their
  names and values say. -/
  attributes : ∀ a ∈ h.attributes, IsPlainName a.name ∧ keepsAttribute h.tagName a.name = true
    ∧ a.kind = .classify a.name a.value
  nodup : (h.attributes.map Attribute.name).Nodup

variable {h : Head}

theorem isTagName_fx {suffix : String} (hchars : suffix.toList.all isPlainChar = true) :
    IsTagName ("fx:" ++ suffix) where
  ne_empty := fun heq => by simp at heq
  all := by
    have hfx : "fx:".toList.all Markup.isTagChar = true := by decide
    rw [String.toList_append, List.all_append, hfx, all_isTagChar hchars]
    rfl

theorem NamesKind.isTagName (hname : h.NamesKind) : IsTagName h.tagName := by
  cases hkind : h.kind <;> simp only [NamesKind, hkind] at hname <;> simp only [tagName, hkind]
  case declaration => exact hname.1.isTagName
  case property => exact hname.1.isTagName
  case unknownType =>
    obtain ⟨suffix, hname, hchars, -⟩ := hname
    rw [hname]
    exact isTagName_fx hchars
  case «include» => exact ⟨by decide, by decide⟩
  case root => exact ⟨by decide, by decide⟩
  all_goals
    rw [hname]
    exact ⟨by decide, by decide⟩

theorem kindPair?_eq_some {pair : String × String} (hpair : h.kindPair? = some pair) :
    pair.1 = "fx:controller" ∨ (pair.1 = "source" ∧ h.tagName = "fx:include")
      ∨ (pair.1 = "type" ∧ h.tagName = "fx:root") := by
  unfold kindPair? at hpair
  split at hpair
  · obtain ⟨controller, -, rfl⟩ := Option.map_eq_some_iff.mp hpair
    exact Or.inl rfl
  · rename_i hkind
    cases hpair
    exact Or.inr (Or.inl ⟨rfl, by rw [tagName, hkind]⟩)
  · rename_i hkind
    cases hpair
    exact Or.inr (Or.inr ⟨rfl, by rw [tagName, hkind]⟩)
  · cases hpair

/-- Which attributes say what an element is. -/
theorem mem_ownPairs {pair : String × String} (hpair : pair ∈ h.ownPairs) :
    pair.1 = "fx:id" ∨ pair.1 = "fx:controller" ∨ (pair.1 = "source" ∧ h.tagName = "fx:include")
      ∨ (pair.1 = "type" ∧ h.tagName = "fx:root") := by
  rcases List.mem_append.mp hpair with hpair | hpair
  · obtain ⟨x, -, rfl⟩ := Option.map_eq_some_iff.mp (Option.mem_toList.mp hpair)
    exact Or.inl rfl
  · exact Or.inr (kindPair?_eq_some (Option.mem_toList.mp hpair))

theorem not_keepsAttribute_ownPairs {pair : String × String} (hpair : pair ∈ h.ownPairs) :
    keepsAttribute h.tagName pair.1 = false := by
  rcases mem_ownPairs hpair with hkey | hkey | ⟨hkey, htag⟩ | ⟨hkey, htag⟩
  · rw [hkey]
    simp [keepsAttribute, Text.startsWith]
  · rw [hkey]
    simp [keepsAttribute, Text.startsWith]
  · rw [hkey, htag]
    decide
  · rw [hkey, htag]
    decide

theorem isTagName_ownPairs {pair : String × String} (hpair : pair ∈ h.ownPairs) :
    IsTagName pair.1 := by
  rcases mem_ownPairs hpair with hkey | hkey | ⟨hkey, -⟩ | ⟨hkey, -⟩ <;>
    (rw [hkey]; exact ⟨by decide, by decide⟩)

theorem kindPair?_ne_fxId {pair : String × String} (hpair : h.kindPair? = some pair) :
    pair.1 ≠ "fx:id" := by
  rcases kindPair?_eq_some hpair with hkey | ⟨hkey, -⟩ | ⟨hkey, -⟩ <;> (rw [hkey]; decide)

theorem nodup_ownPairs (h : Head) : (h.ownPairs.map Prod.fst).Nodup := by
  unfold ownPairs
  cases h.fxId with
  | none => cases h.kindPair? <;> simp
  | some x =>
      cases hpair : h.kindPair? with
      | none => simp
      | some pair => simpa using (kindPair?_ne_fxId hpair).symm

theorem Spellable.isTagName_pairs (hspell : h.Spellable) : ∀ pair ∈ h.pairs, IsTagName pair.1 := by
  intro pair hpair
  rcases List.mem_append.mp hpair with hpair | hpair
  · exact isTagName_ownPairs hpair
  · obtain ⟨a, ha, rfl⟩ := List.mem_map.mp hpair
    exact (hspell.attributes a ha).1.isTagName

theorem Spellable.nodup_pairs (hspell : h.Spellable) : (h.pairs.map Prod.fst).Nodup := by
  have hnames : (h.attributes.map fun a => (a.name, a.value)).map Prod.fst
      = h.attributes.map Attribute.name := by
    rw [List.map_map]
    rfl
  rw [pairs, List.map_append, hnames]
  refine List.nodup_append.mpr ⟨h.nodup_ownPairs, hspell.nodup, ?_⟩
  rintro key hkey _ hname rfl
  obtain ⟨pair, hpair, rfl⟩ := List.mem_map.mp hkey
  obtain ⟨a, ha, heq⟩ := List.mem_map.mp hname
  have hkeeps := (hspell.attributes a ha).2.1
  rw [heq, not_keepsAttribute_ownPairs hpair] at hkeeps
  cases hkeeps

/-- The attributes that are kept are the others. -/
theorem Spellable.filter_pairs (hspell : h.Spellable) :
    (h.pairs.filter fun pair => keepsAttribute h.tagName pair.1)
      = h.attributes.map fun a => (a.name, a.value) := by
  have hown : (h.ownPairs.filter fun pair => keepsAttribute h.tagName pair.1) = [] :=
    List.filter_eq_nil_iff.mpr fun pair hpair =>
      Bool.eq_false_iff.mp (not_keepsAttribute_ownPairs hpair)
  rw [pairs, List.filter_append, hown, List.nil_append, List.filter_eq_self]
  intro pair hpair
  obtain ⟨a, ha, rfl⟩ := List.mem_map.mp hpair
  exact (hspell.attributes a ha).2.1

theorem lookup_attributes (key : String) : ∀ attributes : List Attribute,
    (attributes.map fun a => (a.name, a.value)).lookup key
      = (attributes.find? (·.name == key)).map Attribute.value
  | [] => rfl
  | a :: as => by
      rw [List.map_cons, List.lookup_cons, List.find?_cons, lookup_attributes key as, BEq.comm]
      cases a.name == key <;> rfl

/-- An attribute that is not kept is looked up among those that say what
the element is. -/
theorem Spellable.lookup_pairs (hspell : h.Spellable) {key : String}
    (hkey : keepsAttribute h.tagName key = false) : h.pairs.lookup key = h.ownPairs.lookup key := by
  have hnone : h.attributes.find? (·.name == key) = none := by
    refine List.find?_eq_none.mpr fun a ha heq => ?_
    have hkeeps := (hspell.attributes a ha).2.1
    rw [eq_of_beq heq, hkey] at hkeeps
    cases hkeeps
  rw [pairs, List.lookup_append, lookup_attributes, hnone, Option.map_none, Option.or_none]

theorem lookup_ownPairs_fxId (h : Head) : h.ownPairs.lookup "fx:id" = h.fxId := by
  unfold ownPairs
  cases h.fxId with
  | some x => rfl
  | none =>
      cases hpair : h.kindPair? with
      | none => rfl
      | some pair =>
          have hne : "fx:id" ≠ pair.1 := (kindPair?_ne_fxId hpair).symm
          simp [hne]

theorem lookup_ownPairs_of_ne (h : Head) {key : String} (hkey : key ≠ "fx:id") :
    h.ownPairs.lookup key = h.kindPair?.toList.lookup key := by
  unfold ownPairs
  cases h.fxId with
  | none => rfl
  | some x => simp [List.lookup_cons, beq_false_of_ne hkey]

theorem dropStart?_plain {name : String} (hname : IsPlainName name) :
    Text.dropStart? "fx:" name = none := by
  cases hdrop : Text.dropStart? "fx:" name with
  | none => rfl
  | some suffix =>
      rw [Text.dropStart?_eq_some] at hdrop
      refine absurd ?_ hname.colon_not_mem
      rw [hdrop, String.toList_append]
      exact List.mem_append_left _ (by decide)

theorem plainKind_property {name : String} {kind : PropertyKind}
    (hkind : plainKind name none = .property kind) (controller : Option String) :
    plainKind name controller = .property kind := by
  unfold plainKind at hkind ⊢
  split at hkind
  · rename_i hlower
    rw [if_pos hlower]
    exact hkind
  · cases hkind

theorem Spellable.lookup_fx (hspell : h.Spellable) (suffix : String) :
    h.pairs.lookup ("fx:" ++ suffix) = h.ownPairs.lookup ("fx:" ++ suffix) := by
  refine hspell.lookup_pairs ?_
  have hfx : Text.startsWith "fx:" ("fx:" ++ suffix) = true := by
    rw [Text.startsWith, String.toList_append]
    exact List.isPrefixOf_iff_prefix.mpr (List.prefix_append _ _)
  simp [keepsAttribute, hfx]

theorem Spellable.kindAndName_eq (hspell : h.Spellable) :
    kindAndName h.tagName h.pairs = .ok (h.kind, h.name) := by
  have hname := hspell.kind
  -- Where the kind holds a value, that value is looked up under a key that
  -- no other attribute of the element can have.
  cases hkind : h.kind <;> simp only [NamesKind, hkind] at hname
  case declaration controller =>
    have htag : h.tagName = h.name := by rw [tagName, hkind]
    have hcontroller : h.pairs.lookup "fx:controller" = controller := by
      refine (hspell.lookup_fx "controller").trans ?_
      rw [lookup_ownPairs_of_ne h (by decide), kindPair?, hkind]
      cases controller <;> rfl
    rw [kindAndName, htag, dropStart?_plain hname.1, hcontroller, hname.2]
  case property kind =>
    have htag : h.tagName = h.name := by rw [tagName, hkind]
    rw [kindAndName, htag, dropStart?_plain hname.1, plainKind_property hname.2]
  case «include» source =>
    have htag : h.tagName = "fx:include" := by rw [tagName, hkind]
    have hdrop : Text.dropStart? "fx:" "fx:include" = some "include" := by
      rw [Text.dropStart?_eq_some]
      rfl
    have hsource : h.pairs.lookup "source" = some source := by
      rw [hspell.lookup_pairs (by rw [htag]; decide), lookup_ownPairs_of_ne h (by decide), kindPair?,
        hkind]
      rfl
    rw [kindAndName, htag, hdrop]
    simp only [hsource, hname]
  case root =>
    have htag : h.tagName = "fx:root" := by rw [tagName, hkind]
    have hdrop : Text.dropStart? "fx:" "fx:root" = some "root" := by
      rw [Text.dropStart?_eq_some]
      rfl
    have htype : h.pairs.lookup "type" = some h.name := by
      rw [hspell.lookup_pairs (by rw [htag]; decide), lookup_ownPairs_of_ne h (by decide), kindPair?,
        hkind]
      rfl
    rw [kindAndName, htag, hdrop]
    simp only [htype, Option.getD_some]
  case unknownType =>
    obtain ⟨suffix, hname, -, hnot⟩ := hname
    have htag : h.tagName = "fx:" ++ suffix := by rw [tagName, hkind, hname]
    have hdrop : Text.dropStart? "fx:" ("fx:" ++ suffix) = some suffix :=
      Text.dropStart?_eq_some.mpr rfl
    simp only [fxElements, List.mem_cons, List.not_mem_nil, or_false, not_or] at hnot
    rw [kindAndName, htag, hdrop]
    split <;> simp_all
  all_goals
    have htag : h.tagName = h.name := by rw [tagName, hkind]
    rw [kindAndName, htag, hname]
    rfl

/-- The start tag of an element. -/
def tag (h : Head) : Tag := .ofPairs h.tagName h.pairs

/-- A start tag spells the head it was written for. -/
theorem Spellable.ofTag_eq (hspell : h.Spellable) : ofTag h.tag = .ok h := by
  have hpairs : h.tag.attributes = .ok h.pairs :=
    Tag.attributes_ofPairs h.tagName hspell.isTagName_pairs hspell.nodup_pairs
  have hkindName : kindAndName h.tag.name h.pairs = .ok (h.kind, h.name) := hspell.kindAndName_eq
  have hkept : (h.pairs.filter fun pair => keepsAttribute h.tag.name pair.1) = _ :=
    hspell.filter_pairs
  have hfxId : h.pairs.lookup "fx:id" = h.fxId :=
    (hspell.lookup_fx "id").trans h.lookup_ownPairs_fxId
  have hattributes : (h.attributes.map fun a => (a.name, a.value)).map Attribute.ofPair
      = h.attributes := by
    rw [List.map_map]
    refine (List.map_congr_left fun a ha => ?_).trans (List.map_id _)
    obtain ⟨-, -, hkind⟩ := hspell.attributes a ha
    exact congrArg (Attribute.mk a.name a.value) hkind.symm
  have hid : (h.attributes.map fun a => (a.name, a.value)).lookup "id" = h.id := by
    rw [lookup_attributes, hspell.id]
    rfl
  have hunnamed := hspell.unnamed
  unfold ofTag
  simp only [hpairs, hkindName, hkept, hfxId, hattributes, hid, bind, Except.bind]
  rw [← hunnamed]
  rfl

end Head

/-! ## Elements -/

namespace Element

mutual

/-- The text of an element: a start tag, its children and an end tag. -/
def markup : Element → List Char
  | mk h cs => ('<' :: (h.tagName.toList ++ (writePairs h.pairs ++ ['>'])))
      ++ (markupAll cs ++ '<' :: '/' :: (h.tagName.toList ++ ['>']))

def markupAll : List Element → List Char
  | [] => []
  | e :: es => e.markup ++ markupAll es

end

mutual

def events : Element → List Event
  | mk h cs => [.start h.tag] ++ (eventsAll cs ++ [.close])

def eventsAll : List Element → List Event
  | [] => []
  | e :: es => e.events ++ eventsAll es

end

mutual

theorem adds_markup : ∀ {e : Element}, (∀ h ∈ e.preorder, h.Spellable) →
    ∀ opened : List String, Adds e.markup e.events opened opened
  | mk h cs, hspell, opened => by
      simp only [preorder, preorderWhere, if_true] at hspell
      have hhead := hspell h List.mem_cons_self
      have hname := hhead.kind.isTagName
      rw [markup, events]
      exact (Markup.adds_startTag hname hhead.isTagName_pairs opened).append
        ((adds_markupAll (fun g hg => hspell g (List.mem_cons_of_mem h hg)) _).append
          (Markup.adds_closeTag hname opened))

theorem adds_markupAll : ∀ {es : List Element},
    (∀ h ∈ preorderAllWhere (fun _ => true) es, h.Spellable) →
    ∀ opened : List String, Adds (markupAll es) (eventsAll es) opened opened
  | [], _, opened => .nil opened
  | e :: es, hspell, opened => by
      rw [preorderAllWhere] at hspell
      rw [markupAll, eventsAll]
      exact (adds_markup (fun h hh => hspell h (List.mem_append_left _ hh)) opened).append
        (adds_markupAll (fun h hh => hspell h (List.mem_append_right _ hh)) opened)

end

end Element

/-! ## Building -/

namespace Builder

mutual

/-- The events of an element put that element where the builder stands. -/
theorem run_events : ∀ {e : Element}, (∀ h ∈ e.preorder, h.Spellable) →
    ∀ (b : Builder) (rest : List Event), b.run (e.events ++ rest) = b.attach e >>= (·.run rest)
  | .mk h cs, hspell, b, rest => by
      simp only [Element.preorder, Element.preorderWhere, if_true] at hspell
      have hhead : b.step (.start h.tag) = .ok { b with opened := .leaf h :: b.opened } := by
        rw [step, (hspell h List.mem_cons_self).ofTag_eq]
        rfl
      have hchildren := run_eventsAll (fun g hg => hspell g (List.mem_cons_of_mem h hg)) b h []
        (.close :: rest)
      rw [Element.events, List.append_assoc, List.append_assoc, List.singleton_append, run, hhead]
      exact hchildren

/-- The events of elements inside an open one make them its children. -/
theorem run_eventsAll : ∀ {es : List Element},
    (∀ h ∈ Element.preorderAllWhere (fun _ => true) es, h.Spellable) →
    ∀ (b : Builder) (h : Head) (cs : List Element) (rest : List Event),
      { b with opened := .mk h cs :: b.opened }.run (Element.eventsAll es ++ rest)
        = { b with opened := .mk h (cs ++ es) :: b.opened }.run rest
  | [], _, b, h, cs, rest => by rw [Element.eventsAll, List.append_nil, List.nil_append]
  | e :: es, hspell, b, h, cs, rest => by
      rw [Element.preorderAllWhere] at hspell
      have hrest := run_eventsAll (fun g hg => hspell g (List.mem_append_right _ hg)) b h
        (cs ++ [e]) rest
      rw [List.append_assoc, List.singleton_append] at hrest
      -- An element attached inside an open one becomes its last child.
      rw [Element.eventsAll, List.append_assoc,
        run_events (fun g hg => hspell g (List.mem_append_left _ hg))]
      exact hrest

end

theorem run_instructions : ∀ {is : List Instruction}, (∀ i ∈ is, i.Spellable) →
    ∀ (b : Builder) (rest : List Event),
      b.run (is.map (fun i => .instruction (String.ofList i.content)) ++ rest)
        = { b with instructions := b.instructions ++ is }.run rest
  | [], _, b, rest => by rw [List.map_nil, List.nil_append, List.append_nil]
  | i :: is, hspell, b, rest => by
      have hstep : b.step (.instruction (String.ofList i.content))
          = .ok { b with instructions := b.instructions ++ [i] } := by
        rw [step, Instruction.ofContent?_content (hspell i List.mem_cons_self)]
      have hrest := run_instructions (fun j hj => hspell j (List.mem_cons_of_mem i hj))
        { b with instructions := b.instructions ++ [i] } rest
      simp only [List.append_assoc, List.singleton_append] at hrest
      rw [List.map_cons, List.cons_append, run, hstep]
      exact hrest

end Builder

/-! ## Documents -/

namespace Document

/-- The text of a document. -/
def markup (d : Document) : String :=
  String.ofList (d.instructions.flatMap Instruction.markup ++ d.root.elim [] Element.markup)

def events (d : Document) : List Event :=
  d.instructions.map (fun i => .instruction (String.ofList i.content))
    ++ d.root.elim [] Element.events

/-- A reader could have made the document from plain names. -/
structure Spellable (d : Document) : Prop where
  heads : ∀ h ∈ d.heads, h.Spellable
  instructions : ∀ i ∈ d.instructions, i.Spellable

variable {d : Document}

theorem adds_instructions (opened : List String) : ∀ {is : List Instruction},
    (∀ i ∈ is, i.Spellable) → Adds (is.flatMap Instruction.markup)
      (is.map fun i => .instruction (String.ofList i.content)) opened opened
  | [], _ => .nil opened
  | i :: is, hspell => by
      rw [List.flatMap_cons, List.map_cons]
      exact (Instruction.adds_markup (hspell i List.mem_cons_self) opened).append
        (adds_instructions opened fun j hj => hspell j (List.mem_cons_of_mem i hj))

/-- The text of a document starts with a bracket, if it is not empty. -/
theorem head?_markup (d : Document) :
    (d.instructions.flatMap Instruction.markup ++ d.root.elim [] Element.markup).head?
      ≠ some '\uFEFF' := by
  cases d.instructions with
  | cons i is =>
      rw [List.flatMap_cons, Instruction.markup, List.cons_append, List.cons_append, List.head?_cons]
      decide
  | nil =>
      cases d.root with
      | none => decide
      | some root =>
          obtain ⟨h, cs⟩ := root
          rw [List.flatMap_nil, List.nil_append, Option.elim_some, Element.markup, List.cons_append,
            List.head?_cons]
          decide

theorem Spellable.trace_markup (hd : d.Spellable) : Markup.trace d.markup = ⟨d.events, none⟩ := by
  refine Adds.trace ((adds_instructions [] hd.instructions).append ?_) d.head?_markup
  have hheads := hd.heads
  rw [Document.heads] at hheads
  cases hroot : d.root with
  | none => exact .nil []
  | some root =>
      rw [hroot] at hheads
      exact Element.adds_markup hheads []

/-- A document that is written is read back as it was. -/
theorem ofMarkup_markup (hd : d.Spellable) : ofMarkup d.name d.markup = .ok d := by
  rw [ofMarkup, hd.trace_markup, ofTrace, ofEvents, events, Builder.run_instructions hd.instructions]
  have hheads := hd.heads
  obtain ⟨name, root, instructions⟩ := d
  cases root with
  | none => rfl
  | some root =>
      have hrun := Builder.run_events hheads { instructions := instructions } []
      rw [List.append_nil] at hrun
      simp only [Option.elim_some, List.nil_append]
      rw [hrun]
      rfl

/-- A view with every character that markup could take for its own in one
value, and elements with and without an `fx:` name. -/
def quotedView : Document where
  name := "Main"
  root := some <| .mk
    { kind := .declaration (some "Main"), name := "VBox", fxId := some "box"
      attributes := [⟨"text", "<\"&'>", .instanceProperty⟩, ⟨"onAction", "#save", .eventHandler⟩] } [
    .mk { kind := .property .instanceProperty, name := "children" } [
      .leaf { kind := .include "A.fxml", name := "include", id := some "a"
              attributes := [⟨"id", "a", .instanceProperty⟩] },
      .leaf { kind := .unknownType, name := "fx:value" }]]
  instructions := [.import "java.util" true, .language "js"]

theorem ofMarkup_markup_quotedView :
    quotedView.Spellable
      ∧ quotedView.markup = "<?import java.util.*?><?language js?>"
        ++ "<VBox fx:id=\"box\" fx:controller=\"Main\" text=\"&lt;&quot;&amp;&apos;&gt;\" onAction=\"#save\">"
        ++ "<children><fx:include source=\"A.fxml\" id=\"a\"></fx:include><fx:value></fx:value></children>"
        ++ "</VBox>"
      ∧ ofMarkup quotedView.name quotedView.markup = .ok quotedView := by
  have hspell : quotedView.Spellable := by
    refine ⟨fun h hmem => ?_, fun i hmem => ?_⟩
    · simp only [heads, quotedView, Element.preorder, Element.preorderWhere, Element.preorderAllWhere,
        Element.leaf, if_true, List.append_nil, List.cons_append, List.nil_append, List.mem_cons,
        List.not_mem_nil, or_false] at hmem
      rcases hmem with rfl | rfl | rfl | rfl
      · exact ⟨rfl, ⟨by decide, by decide +kernel⟩, by decide, by decide +kernel, by decide⟩
      · exact ⟨rfl, ⟨by decide, by decide +kernel⟩, by decide, by decide, by decide⟩
      · exact ⟨rfl, rfl, by decide, by decide +kernel, by decide⟩
      · exact ⟨rfl, ⟨"value", rfl, by decide, by decide⟩, by decide, by decide, by decide⟩
    · simp only [quotedView, List.mem_cons, List.not_mem_nil, or_false] at hmem
      rcases hmem with rfl | rfl
      · show Instruction.IsPath (['j', 'a', 'v', 'a'] ++ '.' :: ['u', 't', 'i', 'l'])
        exact .dot (by decide +kernel) (.segment (by decide +kernel))
      · exact ⟨by decide, by decide⟩
  exact ⟨hspell, by decide +kernel, ofMarkup_markup hspell⟩

end Document

end FxmlCodegen
