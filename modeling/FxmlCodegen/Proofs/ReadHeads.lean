import FxmlCodegen.Proofs.EventTrees

/-!
# Heads as they are read

What naming and code generation take for granted of an element holds of
every element of a document that was read (`Head.ReadFrom`): no variable
is assigned yet, the kind is the one the tag's name says, and among the
attributes there is none twice, none of a name space and none that was
read for another purpose.

The elements of a document are the tags of its text, in order, so it is
enough to look at one tag (`Head.readFrom_of_ofTag`). That no attribute is
there twice is the only fact with an induction of its own: it is the keys
read before that a tag's reader carries along (`readAttributes_nodup`).
-/

namespace FxmlCodegen

open Markup (Event Tag)

/-! ## Local parts -/

/-- The part of a dotted name after its last dot; all of it, if there is no
dot. -/
def IsLocalPart (name part : String) : Prop :=
  '.' ∉ part.toList ∧ (name = part ∨ ∃ owner, name = owner ++ "." ++ part)

theorem isLocalPart_iff {name part : String} :
    IsLocalPart name part ↔ Text.localName name = part := by
  unfold Text.localName Text.afterLast Text.cutLast
  constructor
  · rintro ⟨hpart, rfl | ⟨owner, rfl⟩⟩
    · rw [Text.cutLastList_eq_none.mpr hpart]
      rfl
    · have hcut := Text.cutLastList_append hpart owner.toList
      simp only [String.toList_append, List.append_assoc]
      rw [show ".".toList ++ part.toList = '.' :: part.toList from rfl, hcut]
      simp
  · rintro rfl
    cases hcut : Text.cutLastList '.' name.toList with
    | none => exact ⟨Text.cutLastList_eq_none.mp hcut, Or.inl rfl⟩
    | some cut =>
        obtain ⟨hname, hpart⟩ := Text.cutLastList_eq_some.mp hcut
        refine ⟨by simpa using hpart, Or.inr ⟨String.ofList cut.1, ?_⟩⟩
        rw [← String.toList_inj, hname]
        simp

/-! ## What is promised -/

/-- The kind is what the local part of an `fx:` tag says. -/
def Kind.IsFx (kind : Kind) (suffix : String) : Prop :=
  match suffix with
  | "include" => ∃ source, kind = .include source
  | "root" => kind = .root
  | "reference" => kind = .reference
  | "copy" => kind = .copy
  | "define" => kind = .define
  | "script" => kind = .script
  | _ => kind = .unknownType

/-- The kind is what the name of a tag outside the `fx:` name space
says. -/
structure Kind.IsPlain (kind : Kind) (tag : String) : Prop where
  property_iff : ∀ part, IsLocalPart tag part →
    ((∃ form, kind = .property form) ↔ Text.startsLowercase part = true)
  static_iff : kind = .property .staticProperty
    ↔ (∃ form, kind = .property form) ∧ '.' ∈ tag.toList ∧ Text.startsLowercase tag = false
  otherwise : (¬ ∃ form, kind = .property form) → ∃ controller, kind = .declaration controller

/-- The kind is what the name of a tag says. -/
structure Kind.OfTag (kind : Kind) (tag : String) : Prop where
  fx : ∀ suffix, tag = "fx:" ++ suffix → kind.IsFx suffix
  plain : (∀ suffix, tag ≠ "fx:" ++ suffix) → kind.IsPlain tag

/-- The attribute is of no name space and of the kind that its name and
value say. -/
structure Attribute.IsOrdinary (a : Attribute) : Prop where
  ne_xmlns : a.name ≠ "xmlns"
  ne_xmlnsColon : ∀ suffix, a.name ≠ "xmlns:" ++ suffix
  ne_fx : ∀ suffix, a.name ≠ "fx:" ++ suffix
  kind_eq : a.kind = .classify a.name a.value
  handler : a.kind = .eventHandler → ∃ method, a.value = "#" ++ method
  static : a.kind = .staticProperty → '.' ∈ a.name.toList

/-- What holds of the head of an element with this tag, as it is read. -/
structure Head.ReadFrom (tag : Tag) (h : Head) : Prop where
  unnamed : h.identifier = none
  known : h.kind ≠ .unknownStaticProperty
  kind : h.kind.OfTag tag.name
  ordinary : ∀ a ∈ h.attributes, a.IsOrdinary
  source : ∀ source, h.kind = .include source → ∀ a ∈ h.attributes, a.name ≠ "source"
  type : h.kind = .root → ∀ a ∈ h.attributes, a.name ≠ "type"
  nodup : (h.attributes.map Attribute.name).Nodup
  id_iff : ∀ value, h.id = some value ↔ ∃ a ∈ h.attributes, a.name = "id" ∧ a.value = value

namespace Kind.OfTag

variable {kind : Kind} {tag : String}

/-- An element that is neither an object nor a property has an `fx:`
tag. -/
theorem exists_suffix (hkind : kind.OfTag tag) (hproperty : ∀ form, kind ≠ .property form)
    (hdeclaration : ∀ controller, kind ≠ .declaration controller) :
    ∃ suffix, tag = "fx:" ++ suffix ∧ kind.IsFx suffix := by
  by_cases htag : ∃ suffix, tag = "fx:" ++ suffix
  · obtain ⟨suffix, htag⟩ := htag
    exact ⟨suffix, htag, hkind.fx suffix htag⟩
  · have hplain := hkind.plain fun suffix heq => htag ⟨suffix, heq⟩
    obtain ⟨controller, heq⟩ := hplain.otherwise fun ⟨form, heq⟩ => hproperty form heq
    exact absurd heq (hdeclaration controller)

theorem ne_unknownStaticProperty (hkind : kind.OfTag tag) : kind ≠ .unknownStaticProperty := by
  rintro rfl
  obtain ⟨suffix, -, hfx⟩ := hkind.exists_suffix nofun nofun
  unfold IsFx at hfx
  split at hfx <;> simp at hfx

theorem tag_of_include {source : String} (hkind : OfTag (.include source) tag) :
    tag = "fx:include" := by
  obtain ⟨suffix, rfl, hfx⟩ := hkind.exists_suffix nofun nofun
  unfold IsFx at hfx
  split at hfx
  · rfl
  all_goals simp at hfx

theorem tag_of_root (hkind : OfTag .root tag) : tag = "fx:root" := by
  obtain ⟨suffix, rfl, hfx⟩ := hkind.exists_suffix nofun nofun
  unfold IsFx at hfx
  split at hfx
  case h_2 => rfl
  all_goals simp at hfx

end Kind.OfTag

/-! ## Keys -/

namespace Markup

/-- The next attribute has a key that was not read before. -/
theorem readAttribute_key {total pos : Nat} {seen : List (String × Nat)} {cs : List Char}
    {a : RawAttribute} (hread : readAttribute total seen pos cs = .ok (some a)) :
    seen.lookup a.key = none := by
  unfold readAttribute at hread
  split at hread
  · cases hread
  · rename_i first rest hcs
    unfold readKeyed at hread
    simp only at hread
    split at hread
    · cases hread
    · split at hread
      · split at hread
        · cases hread
        · rename_i hseen
          split at hread
          · cases hread
            exact hseen
          · cases hread
      · cases hread

theorem readAttributes_nodup {total : Nat} {seen : List (String × Nat)} {pos : Nat}
    {cs : List Char} {pairs : List (String × String)}
    (hread : readAttributes total seen pos cs = .ok pairs) :
    (pairs.map Prod.fst).Nodup ∧ ∀ key ∈ pairs.map Prod.fst, seen.lookup key = none := by
  fun_induction readAttributes total seen pos cs generalizing pairs with
  | case1 => cases hread
  | case2 =>
    cases hread
    simp
  | case3 => cases hread
  | case4 => cases hread
  | case5 seen pos cs a hnext value hvalue attributes hrest ih =>
    cases hread
    obtain ⟨hnodup, hnew⟩ := ih hrest
    have hkey : ∀ key ∈ attributes.map Prod.fst, key ≠ a.key ∧ seen.lookup key = none := by
      intro key hmem
      have hlookup := hnew key hmem
      rw [List.lookup_cons] at hlookup
      cases hbeq : key == a.key with
      | true => simp [hbeq] at hlookup
      | false =>
          rw [hbeq] at hlookup
          exact ⟨ne_of_beq_false hbeq, hlookup⟩
    rw [List.map_cons, List.nodup_cons]
    refine ⟨⟨fun hmem => (hkey a.key hmem).1 rfl, hnodup⟩, fun key hmem => ?_⟩
    rcases List.mem_cons.mp hmem with rfl | hmem
    · exact readAttribute_key hnext
    · exact (hkey key hmem).2

end Markup

/-! ## One tag -/

theorem lookup_eq_some_iff_mem {key value : String} : ∀ {pairs : List (String × String)},
    (pairs.map Prod.fst).Nodup → (pairs.lookup key = some value ↔ (key, value) ∈ pairs)
  | [], _ => by simp
  | (k, v) :: pairs, hnodup => by
      rw [List.map_cons, List.nodup_cons] at hnodup
      rw [List.lookup_cons, List.mem_cons, Prod.mk.injEq]
      cases hbeq : key == k with
      | true =>
          obtain rfl := eq_of_beq hbeq
          have hnot : (key, value) ∉ pairs := fun hmem =>
            hnodup.1 (List.mem_map.mpr ⟨(key, value), hmem, rfl⟩)
          simp [hnot, eq_comm]
      | false =>
          have hne := ne_of_beq_false hbeq
          simp [hne, lookup_eq_some_iff_mem hnodup.2]

theorem Attribute.isOrdinary_ofPair {tag : String} {pair : String × String}
    (hkeeps : Head.keepsAttribute tag pair.1 = true) : (ofPair pair).IsOrdinary := by
  simp only [Head.keepsAttribute, Bool.not_eq_true', Bool.or_eq_false_iff, beq_eq_false_iff_ne,
    ne_eq] at hkeeps
  obtain ⟨⟨⟨⟨hxmlns, hcolon⟩, hfx⟩, -⟩, -⟩ := hkeeps
  refine ⟨hxmlns, fun suffix heq => ?_, fun suffix heq => ?_, rfl, fun hkind => ?_, fun hkind => ?_⟩
  · exact Bool.false_ne_true (hcolon.symm.trans (Text.startsWith_iff.mpr ⟨suffix, heq⟩))
  · exact Bool.false_ne_true (hfx.symm.trans (Text.startsWith_iff.mpr ⟨suffix, heq⟩))
  · simp only [ofPair, AttributeKind.classify] at hkind
    split at hkind
    · rename_i hhandler
      rw [Bool.and_eq_true] at hhandler
      exact Text.startsWith_iff.mp hhandler.2
    · split at hkind <;> cases hkind
  · simp only [ofPair, AttributeKind.classify] at hkind
    split at hkind
    · cases hkind
    · split at hkind
      · rename_i hstatic
        rw [Bool.and_eq_true] at hstatic
        exact List.contains_iff_mem.mp hstatic.1
      · cases hkind

namespace Head

theorem isPlain_plainKind (tag : String) (controller : Option String) :
    (plainKind tag controller).IsPlain tag := by
  have hpart : ∀ part, IsLocalPart tag part → Text.localName tag = part := fun part =>
    isLocalPart_iff.mp
  unfold plainKind
  cases hlower : Text.startsLowercase (Text.localName tag) with
  | true =>
      refine ⟨fun part h => ?_, ?_, ?_⟩
      · rw [← hpart part h, hlower]
        simp
      · simp
      · simp
  | false =>
      refine ⟨fun part h => ?_, ?_, ?_⟩
      · rw [← hpart part h, hlower]
        simp
      · simp
      · simp

theorem isFx_of_kindAndName {suffix : String} {pairs : List (String × String)} {kind : Kind}
    {name : String} (hok : kindAndName ("fx:" ++ suffix) pairs = .ok (kind, name)) :
    kind.IsFx suffix := by
  rw [kindAndName, Text.dropStart?_eq_some.mpr rfl] at hok
  unfold Kind.IsFx
  split at hok
  case h_1 heq => cases heq
  case h_2 heq =>
    cases heq
    split at hok
    · cases hok
      exact ⟨_, rfl⟩
    · cases hok
  case h_8 heq =>
    cases heq
    cases hok
    split <;> simp_all
  all_goals
    rename_i heq
    cases heq
    cases hok
    rfl

theorem ofTag_of_kindAndName {tag : String} {pairs : List (String × String)} {kind : Kind}
    {name : String} (hok : kindAndName tag pairs = .ok (kind, name)) : kind.OfTag tag := by
  constructor
  · rintro suffix rfl
    exact isFx_of_kindAndName hok
  · intro htag
    have hdrop : Text.dropStart? "fx:" tag = none := by
      cases hdrop : Text.dropStart? "fx:" tag with
      | none => rfl
      | some suffix => exact absurd (Text.dropStart?_eq_some.mp hdrop) (htag suffix)
    rw [kindAndName, hdrop] at hok
    cases hok
    exact isPlain_plainKind tag _

/-- What is kept for an include or a root is not what says which one. -/
theorem ne_of_keepsAttribute {tag key : String} (hkeeps : keepsAttribute tag key = true) :
    (tag = "fx:include" → key ≠ "source") ∧ (tag = "fx:root" → key ≠ "type") := by
  constructor
  · rintro rfl rfl
    revert hkeeps
    decide
  · rintro rfl rfl
    revert hkeeps
    decide

theorem readFrom_of_ofTag {tag : Tag} {h : Head} (hok : ofTag tag = .ok h) : h.ReadFrom tag := by
  simp only [ofTag, bind_eq_ok] at hok
  obtain ⟨pairs, hpairs, ⟨kind, name⟩, hkindName, hok⟩ := hok
  cases hok
  have hkind := ofTag_of_kindAndName hkindName
  have hmem : ∀ a ∈ (pairs.filter fun pair => keepsAttribute tag.name pair.1).map Attribute.ofPair,
      a.IsOrdinary ∧ keepsAttribute tag.name a.name = true := by
    intro a ha
    obtain ⟨pair, hpair, rfl⟩ := List.mem_map.mp ha
    have hkeeps := (List.mem_filter.mp hpair).2
    exact ⟨Attribute.isOrdinary_ofPair hkeeps, hkeeps⟩
  have hnodup : ((pairs.filter fun pair => keepsAttribute tag.name pair.1).map Prod.fst).Nodup :=
    (Markup.readAttributes_nodup hpairs).1.sublist (List.filter_sublist.map _)
  refine ⟨rfl, hkind.ne_unknownStaticProperty, hkind, fun a ha => (hmem a ha).1, ?_, ?_, ?_, ?_⟩
  · rintro source rfl a ha
    exact (ne_of_keepsAttribute (hmem a ha).2).1 hkind.tag_of_include
  · rintro rfl a ha
    exact (ne_of_keepsAttribute (hmem a ha).2).2 hkind.tag_of_root
  · rw [List.map_map]
    exact hnodup
  · intro value
    rw [lookup_eq_some_iff_mem hnodup]
    constructor
    · intro hpair
      exact ⟨_, List.mem_map_of_mem hpair, rfl, rfl⟩
    · rintro ⟨a, ha, hname, hvalue⟩
      obtain ⟨pair, hpair, rfl⟩ := List.mem_map.mp ha
      rwa [show pair = ("id", value) from Prod.ext hname hvalue] at hpair

end Head

/-! ## Documents -/

mutual

theorem Element.map_snd_outline (depth : Nat) : ∀ e : Element,
    (e.outline depth).map Prod.snd = e.preorder
  | .mk h cs => by
      simp only [outline, preorder, preorderWhere, if_true, List.map_cons,
        map_snd_outlineAll (depth + 1) cs]

theorem Element.map_snd_outlineAll (depth : Nat) : ∀ es : List Element,
    (outlineAll depth es).map Prod.snd = preorderAllWhere (fun _ => true) es
  | [] => rfl
  | e :: es => by
      rw [outlineAll, preorderAllWhere, List.map_append, map_snd_outline depth e,
        map_snd_outlineAll depth es]
      rfl

end

theorem Markup.map_snd_nested : ∀ (depth : Nat) (events : List Event),
    (nested depth events).map Prod.snd = events.filterMap Event.tag?
  | _, [] => rfl
  | depth, event :: events => by
      rw [nested, List.map_append, map_snd_nested (event.depthAfter depth) events,
        List.filterMap_cons]
      cases event.tag? <;> rfl

namespace Document

variable {name source : String} {d : Document}

theorem heads_eq_outline (d : Document) : d.heads = d.outline.map Prod.snd := by
  unfold heads outline
  cases d.root with
  | none => rfl
  | some root => exact (Element.map_snd_outline 0 root).symm

/-- Every element of a document that was read is as its tag says, and the
tags are those of the text in order. -/
theorem ofMarkup_readFrom (hok : ofMarkup name source = .ok d) :
    List.Forall₂ Head.ReadFrom ((Markup.trace source).events.filterMap Event.tag?) d.heads := by
  obtain ⟨-, b, hrun, hopened, rfl⟩ := ofTrace_eq_ok.mp hok
  obtain ⟨lines, hlines, houtline, -⟩ := Builder.run_grows hrun
  have hdocument : outline ⟨name, b.root, b.instructions⟩ = lines := by
    have hbuilder : b.outline = outline ⟨name, b.root, b.instructions⟩ := by
      simp [Builder.outline, Builder.openOutline, hopened, outline]
    rw [← hbuilder, houtline]
    rfl
  rw [heads_eq_outline, hdocument, ← Markup.map_snd_nested 0, List.forall₂_map_left_iff,
    List.forall₂_map_right_iff]
  exact hlines.imp fun tag line hspells => Head.readFrom_of_ofTag hspells.2

/-- A root with a name space, an id, a handler and a static property, around
elements of other kinds. -/
def mixedView : String :=
  "<fx:root xmlns:fx='fx' type='VBox' id='top' onAction='#save' GridPane.rowIndex='1'>"
    ++ "<GridPane.margin/><javafx.Button/><fx:include source='A.fxml'/><fx:value/></fx:root>"

theorem ofMarkup_readFrom_mixedView :
    ∃ d, ofMarkup "Main" mixedView = .ok d
      ∧ d.heads.map (fun h => (h.name, h.kind))
        = [("VBox", .root), ("GridPane.margin", .property .staticProperty),
          ("javafx.Button", .declaration none), ("include", .include "A.fxml"),
          ("fx:value", .unknownType)]
      ∧ d.heads.map (fun h => (h.id, h.attributes.map Attribute.name))
        = [(some "top", ["id", "onAction", "GridPane.rowIndex"]), (none, []), (none, []),
          (none, []), (none, [])]
      ∧ List.Forall₂ Head.ReadFrom ((Markup.trace mixedView).events.filterMap Event.tag?)
        d.heads := by
  have hview : (ofMarkup "Main" mixedView).toOption.map (fun d =>
      (d.heads.map (fun h => (h.name, h.kind)),
        d.heads.map fun h => (h.id, h.attributes.map Attribute.name)))
      = some ([("VBox", .root), ("GridPane.margin", .property .staticProperty),
          ("javafx.Button", .declaration none), ("include", .include "A.fxml"),
          ("fx:value", .unknownType)],
        [(some "top", ["id", "onAction", "GridPane.rowIndex"]), (none, []), (none, []),
          (none, []), (none, [])]) := by decide +kernel
  cases hok : ofMarkup "Main" mixedView with
  | error fault =>
      rw [hok] at hview
      cases hview
  | ok d =>
      rw [hok] at hview
      obtain ⟨hkinds, hattributes⟩ := Prod.mk.inj (Option.some.inj hview)
      exact ⟨d, rfl, hkinds, hattributes, ofMarkup_readFrom hok⟩

end Document

end FxmlCodegen
