import FxmlCodegen.Proofs.NamedDocument
import FxmlCodegen.Proofs.UniqueNames
import Mathlib.Data.List.Forall2

/-!
# Naming a document after an edit

A document that has been named may get new elements and be named again.
What has a name keeps it (`NamingPass.kept`). The new elements get names
that differ from every `fx:id` and from each other, but the names that are
there are not taken beforehand, so a new one can be equal to one of them.

Nothing else can go wrong. Where the names that are given, those that are
there and the `fx:id`s of the others, differ, all names differ exactly if
taking the names that are there beforehand would have changed none of the
new ones (`Element.nodup_identifiers_iff`); and with these taken, all names
always differ. For an edited document this is
`Document.identify_edited`, and `repeatedButton` is an edit after which
two elements have one name.
-/

namespace FxmlCodegen

/-! ## Names that are given -/

/-- The name the element has, or the one its `fx:id` will give it. -/
def Head.givenName? (h : Head) : Option String := h.identifier <|> h.ownFxId?

theorem Head.givenName?_of_identifier {h : Head} {x : String} (hx : h.identifier = some x) :
    h.givenName? = some x := by
  rw [givenName?, hx]
  rfl

theorem Head.givenName?_of_none {h : Head} (hnone : h.identifier = none) :
    h.givenName? = h.ownFxId? := by
  rw [givenName?, hnone]
  rfl

/-- A head that has the name it needs is given no other. -/
theorem Head.givenName?_eq_identifier {h : Head}
    (hhas : h.needsName = true → ∃ x, h.identifier = some x) : h.givenName? = h.identifier := by
  cases hx : h.identifier with
  | some x => exact givenName?_of_identifier hx
  | none =>
      rw [givenName?_of_none hx]
      cases hfx : h.ownFxId? with
      | none => rfl
      | some y =>
          obtain ⟨z, hz⟩ := hhas (needsName_of_ownFxId hfx)
          rw [hx] at hz
          cases hz

/-- The names of the second heads differ, and those that were not given to
the first are none of the taken ones. -/
structure NamesApart (hs hs' : List Head) (taken : List String) : Prop where
  nodup : (hs'.filterMap (·.identifier)).Nodup
  given_or_free : ∀ x ∈ hs'.filterMap (·.identifier),
    x ∈ hs.filterMap Head.givenName? ∨ x ∉ taken

namespace NamesApart

variable {h h' : Head} {hs hs' : List Head} {taken : List String} {x : String}

/-- The name a head is given comes up again neither among the given names of
the rest nor, being taken, among the others. -/
theorem cons_given (hx : h.givenName? = some x) (hx' : h'.identifier = some x)
    (hnew : x ∉ hs.filterMap Head.givenName?) (htaken : x ∈ taken)
    (rest : NamesApart hs hs' taken) : NamesApart (h :: hs) (h' :: hs') taken := by
  constructor
  all_goals rw [List.filterMap_cons_some (f := fun h : Head => h.identifier) hx']
  · refine List.nodup_cons.mpr ⟨fun hin => ?_, rest.nodup⟩
    rcases rest.given_or_free x hin with hin | hfree
    · exact hnew hin
    · exact hfree htaken
  · rw [List.filterMap_cons_some hx]
    intro y hy
    rcases List.mem_cons.mp hy with rfl | hy
    · exact Or.inl List.mem_cons_self
    · exact (rest.given_or_free y hy).imp_left (List.mem_cons_of_mem x)

theorem cons_none (hnot : h.givenName? = none) (hnot' : h'.identifier = none)
    (rest : NamesApart hs hs' taken) : NamesApart (h :: hs) (h' :: hs') taken := by
  constructor
  all_goals rw [List.filterMap_cons_none (f := fun h : Head => h.identifier) hnot']
  · exact rest.nodup
  · rw [List.filterMap_cons_none hnot]
    exact rest.given_or_free

/-- A free name is taken before the rest is named. -/
theorem cons_fresh (hnot : h.givenName? = none) (hx' : h'.identifier = some x) (hfree : x ∉ taken)
    (htaken : ∀ y ∈ hs.filterMap Head.givenName?, y ∈ taken)
    (rest : NamesApart hs hs' (x :: taken)) : NamesApart (h :: hs) (h' :: hs') taken := by
  constructor
  all_goals rw [List.filterMap_cons_some (f := fun h : Head => h.identifier) hx']
  · refine List.nodup_cons.mpr ⟨fun hin => ?_, rest.nodup⟩
    rcases rest.given_or_free x hin with hin | hfree'
    · exact hfree (htaken x hin)
    · exact hfree' List.mem_cons_self
  · rw [List.filterMap_cons_none hnot]
    intro y hy
    rcases List.mem_cons.mp hy with rfl | hy
    · exact Or.inr hfree
    · exact (rest.given_or_free y hy).imp_right fun hnot hin => hnot (List.mem_cons_of_mem x hin)

end NamesApart

namespace NamingPass

variable {hs hs' : List Head} {taken taken' : List String}

/-- A head with a name stays as it is. -/
theorem kept (pass : NamingPass hs taken hs' taken') :
    List.Forall₂ (fun g h : Head => ∀ x, g.identifier = some x → h = g) hs hs' := by
  induction pass with
  | nil => exact .nil
  | @cons h _ _ taken _ owner _ ih =>
      refine .cons (fun x hx => ?_) ih
      rw [Head.identify_eq_self fun _ => ⟨x, hx⟩]

theorem identifiers_subset (pass : NamingPass hs taken hs' taken') :
    hs.filterMap (·.identifier) ⊆ hs'.filterMap (·.identifier) := by
  intro x hx
  obtain ⟨g, hg, hgx⟩ := List.mem_filterMap.mp hx
  obtain ⟨i, hi, rfl⟩ := List.getElem_of_mem hg
  have hi' : i < hs'.length := pass.kept.length_eq ▸ hi
  have hsame : hs'[i] = hs[i] := pass.kept.get hi hi' x hgx
  exact List.mem_filterMap.mpr ⟨hs'[i], List.getElem_mem hi', hsame ▸ hgx⟩

/-- A pass takes names and gives none back, and those it takes are names of
heads after it. -/
theorem taken_spec (pass : NamingPass hs taken hs' taken') :
    taken ⊆ taken' ∧ ∀ x ∈ taken', x ∈ taken ∨ x ∈ hs'.filterMap (·.identifier) := by
  induction pass with
  | nil => exact ⟨List.Subset.refl _, fun x hx => Or.inl hx⟩
  | @cons h _ hs' taken _ owner _ ih =>
      obtain ⟨hsub, htaken⟩ := ih
      have hlater : ∀ x ∈ hs'.filterMap (·.identifier),
          x ∈ ((h.identify owner taken).1 :: hs').filterMap (·.identifier) := by
        intro x hx
        obtain ⟨g, hg, hgx⟩ := List.mem_filterMap.mp hx
        exact List.mem_filterMap.mpr ⟨g, List.mem_cons_of_mem _ hg, hgx⟩
      rcases h.identify_cases owner taken with ⟨heq, -⟩ | ⟨x, -, -, heq⟩ | ⟨seed, -, -, -, heq⟩
      · rw [heq] at hsub htaken
        exact ⟨hsub, fun y hy => (htaken y hy).imp_right (hlater y)⟩
      · rw [heq] at hsub htaken
        exact ⟨hsub, fun y hy => (htaken y hy).imp_right (hlater y)⟩
      · rw [heq] at hsub htaken hlater ⊢
        refine ⟨fun y hy => hsub (List.mem_cons_of_mem _ hy), fun y hy => ?_⟩
        rcases htaken y hy with hy | hy
        · rcases List.mem_cons.mp hy with rfl | hy
          · exact Or.inr (List.mem_filterMap.mpr ⟨_, List.mem_cons_self, rfl⟩)
          · exact Or.inl hy
        · exact Or.inr (hlater y hy)

/-- Where the given names differ and are taken at the start, all names
differ in the end. -/
theorem namesApart (pass : NamingPass hs taken hs' taken')
    (hgiven : (hs.filterMap Head.givenName?).Nodup)
    (htaken : ∀ x ∈ hs.filterMap Head.givenName?, x ∈ taken) : NamesApart hs hs' taken := by
  induction pass with
  | nil => exact ⟨List.nodup_nil, fun x hx => (List.not_mem_nil hx).elim⟩
  | @cons h hs hs' taken taken' owner rest ih =>
      have hcase : ∀ x, h.givenName? = some x → (h.identify owner taken).2 = taken →
          (h.identify owner taken).1.identifier = some x →
          NamesApart (h :: hs) ((h.identify owner taken).1 :: hs') taken := by
        intro x hx hsame hid
        rw [List.filterMap_cons_some hx] at hgiven htaken
        obtain ⟨hnew, hgiven⟩ := List.nodup_cons.mp hgiven
        rw [hsame] at ih
        exact .cons_given hx hid hnew (htaken x List.mem_cons_self)
          (ih hgiven fun y hy => htaken y (List.mem_cons_of_mem x hy))
      rcases h.identify_cases owner taken with ⟨heq, hhas⟩ | ⟨x, hnone, hx, heq⟩
        | ⟨seed, hnone, hfx, -, heq⟩
      · cases hid : h.identifier with
        | some x =>
            exact hcase x (Head.givenName?_of_identifier hid) (by rw [heq]) (by rw [heq, hid])
        | none =>
            have hnot : h.givenName? = none := (Head.givenName?_eq_identifier hhas).trans hid
            rw [List.filterMap_cons_none hnot] at hgiven htaken
            rw [heq] at ih ⊢
            exact .cons_none hnot hid (ih hgiven htaken)
      · exact hcase x ((Head.givenName?_of_none hnone).trans hx) (by rw [heq]) (by rw [heq])
      · have hnot : h.givenName? = none := (Head.givenName?_of_none hnone).trans hfx
        rw [List.filterMap_cons_none hnot] at hgiven htaken
        rw [heq] at ih ⊢
        exact .cons_fresh hnot rfl (freshName_not_mem taken seed) htaken
          (ih hgiven fun y hy => List.mem_cons_of_mem _ (htaken y hy))

/-- Where all names differ in the end, no name taken on the way is one that
was there. -/
theorem not_mem_identifiers (pass : NamingPass hs taken hs' taken')
    (hnodup : (hs'.filterMap (·.identifier)).Nodup) :
    ∀ x ∈ taken', x ∈ taken ∨ x ∉ hs.filterMap (·.identifier) := by
  induction pass with
  | nil => exact fun x hx => Or.inl hx
  | @cons h hs hs' taken taken' owner rest ih =>
      have hrest : (hs'.filterMap (·.identifier)).Nodup :=
        hnodup.sublist ((List.sublist_cons_self _ hs').filterMap _)
      intro x hx
      rcases h.identify_cases owner taken with ⟨heq, -⟩ | ⟨y, hnone, -, heq⟩
        | ⟨seed, hnone, -, -, heq⟩
      · rw [heq] at ih hnodup rest
        by_cases hin : x ∈ taken
        · exact Or.inl hin
        · refine Or.inr ?_
          have hlater : x ∉ hs.filterMap (·.identifier) :=
            (ih hrest x hx).resolve_left hin
          cases hid : h.identifier with
          | none => rwa [List.filterMap_cons_none (f := fun h : Head => h.identifier) hid]
          | some y =>
              rw [List.filterMap_cons_some (f := fun h : Head => h.identifier) hid] at hnodup ⊢
              -- `x` was taken by a later head, so it is not the name of this one.
              have hmade : x ∈ hs'.filterMap (·.identifier) :=
                (rest.taken_spec.2 x hx).resolve_left hin
              have hne : x ≠ y := fun heq => (List.nodup_cons.mp hnodup).1 (heq ▸ hmade)
              exact List.not_mem_cons_of_ne_of_not_mem hne hlater
      · rw [heq] at ih
        rw [List.filterMap_cons_none (f := fun h : Head => h.identifier) hnone]
        exact ih hrest x hx
      · rw [heq] at ih hnodup
        rw [List.filterMap_cons_none (f := fun h : Head => h.identifier) hnone]
        rcases ih hrest x hx with hin | hfree
        · rcases List.mem_cons.mp hin with rfl | hin
          · rw [List.filterMap_cons_some (f := fun h : Head => h.identifier) rfl] at hnodup
            exact Or.inr fun hin => (List.nodup_cons.mp hnodup).1 (rest.identifiers_subset hin)
          · exact Or.inl hin
        · exact Or.inr hfree

end NamingPass

/-! ## Names taken beforehand -/

theorem Head.identifyFresh_append {h : Head} {seed : String} {taken kept : List String}
    (hapart : ∀ x ∈ (h.identifyFresh seed taken).2, x ∈ kept → x ∈ taken) :
    h.identifyFresh seed (taken ++ kept)
      = ((h.identifyFresh seed taken).1, (h.identifyFresh seed taken).2 ++ kept) := by
  have hfree := freshName_not_mem taken seed
  have hsame : freshName (taken ++ kept) seed = freshName taken seed := by
    refine freshName_eq_of_subset (List.subset_append_left taken kept) fun hin => ?_
    rcases List.mem_append.mp hin with hin | hin
    · exact hfree hin
    · exact hfree (hapart _ List.mem_cons_self hin)
  rw [identifyFresh, hsame]
  rfl

theorem Head.identify_append {h : Head} {owner : String} {taken kept : List String}
    (hapart : ∀ x ∈ (h.identify owner taken).2, x ∈ kept → x ∈ taken) :
    h.identify owner (taken ++ kept)
      = ((h.identify owner taken).1, (h.identify owner taken).2 ++ kept) := by
  rcases h.identify_forms owner with ⟨heq, -⟩ | ⟨x, -, -, heq⟩ | ⟨-, -, -, heq⟩
  · rw [heq, heq]
  · rw [heq, heq]
  · rw [heq] at hapart
    rw [heq, heq]
    exact identifyFresh_append hapart

namespace Element

mutual

/-- Taking further names beforehand changes no name, if none of them would
be made. -/
theorem identify_append {kept : List String} : ∀ {e : Element} {owner : String}
    {taken : List String}, (∀ x ∈ (e.identify owner taken).2, x ∈ kept → x ∈ taken) →
      e.identify owner (taken ++ kept)
        = ((e.identify owner taken).1, (e.identify owner taken).2 ++ kept)
  | mk h cs, owner, taken, hapart => by
      simp only [identify] at hapart ⊢
      have hhead : taken ⊆ (h.identify owner taken).2 :=
        (NamingPass.cons owner (.nil _) : NamingPass [h] taken _ _).taken_spec.1
      have hrest := (identifyAll_pass ((h.identify owner taken).1.ownerBelow owner) cs
        (h.identify owner taken).2).taken_spec.1
      rw [Head.identify_append fun x hx => hapart x (hrest hx)]
      simp only
      rw [identifyAll_append fun x hx hkept => hhead (hapart x hx hkept)]

theorem identifyAll_append {kept : List String} : ∀ {es : List Element} {owner : String}
    {taken : List String}, (∀ x ∈ (identifyAll owner es taken).2, x ∈ kept → x ∈ taken) →
      identifyAll owner es (taken ++ kept)
        = ((identifyAll owner es taken).1, (identifyAll owner es taken).2 ++ kept)
  | [], _, _, _ => rfl
  | e :: es, owner, taken, hapart => by
      simp only [identifyAll] at hapart ⊢
      have hfirst := (identify_pass owner e taken).taken_spec.1
      have hrest := (identifyAll_pass owner es (e.identify owner taken).2).taken_spec.1
      rw [identify_append fun x hx => hapart x (hrest hx)]
      simp only
      rw [identifyAll_append fun x hx hkept => hfirst (hapart x hx hkept)]

end

/-- The names that are there. -/
def identifiers (e : Element) : List String := e.preorder.filterMap (·.identifier)

/-- The element named where the names that are there are taken beforehand,
besides the `fx:id`s. -/
def identifyApart (e : Element) : Element := (e.identify "" (e.fxIds ++ e.identifiers)).1

theorem nodup_identifiers_identifyApart {e : Element}
    (hgiven : (e.preorder.filterMap Head.givenName?).Nodup) :
    e.identifyApart.identifiers.Nodup := by
  have pass := identify_pass "" e (e.fxIds ++ e.identifiers)
  refine (pass.namesApart hgiven fun x hx => ?_).nodup
  obtain ⟨h, hmem, hhx⟩ := List.mem_filterMap.mp hx
  rw [List.mem_append]
  cases hid : h.identifier with
  | some y =>
      rw [Head.givenName?_of_identifier hid] at hhx
      exact Or.inr (List.mem_filterMap.mpr ⟨h, hmem, hid.trans hhx⟩)
  | none =>
      rw [Head.givenName?_of_none hid] at hhx
      exact Or.inl (List.mem_filterMap.mpr ⟨h, hmem, Head.fxId_of_ownFxId? hhx⟩)

/-- All names differ exactly if none would be another with the names that
are there taken as well. -/
theorem nodup_identifiers_iff {e : Element}
    (hgiven : (e.preorder.filterMap Head.givenName?).Nodup) :
    (e.identify "" e.fxIds).1.identifiers.Nodup ↔ (e.identify "" e.fxIds).1 = e.identifyApart := by
  constructor
  · intro hnodup
    have pass := identify_pass "" e e.fxIds
    have happend : e.identify "" (e.fxIds ++ e.identifiers) = _ :=
      identify_append fun x hx hkept =>
        (pass.not_mem_identifiers hnodup x hx).resolve_right fun hnot => hnot hkept
    rw [identifyApart, happend]
  · intro hsame
    rw [hsame]
    exact nodup_identifiers_identifyApart hgiven

/-! ## Edits -/

/-- The second elements are the first with new ones put in at any places,
whose heads are listed. A new element may stand around others. -/
inductive Inserted : List Element → List Head → List Element → Prop
  | nil : Inserted [] [] []
  | keep {h : Head} {cs es cs' es' : List Element} {new new' : List Head}
      (inside : Inserted cs new cs') (after : Inserted es new' es') :
      Inserted (mk h cs :: es) (new ++ new') (mk h cs' :: es')
  | insert {h : Head} {cs es cs' es' : List Element} {new new' : List Head}
      (inside : Inserted cs new cs') (after : Inserted es new' es') :
      Inserted (cs ++ es) (h :: (new ++ new')) (mk h cs' :: es')

theorem preorderAllWhere_append (descend : Head → Bool) (es es' : List Element) :
    preorderAllWhere descend (es ++ es')
      = preorderAllWhere descend es ++ preorderAllWhere descend es' := by
  induction es with
  | nil => rfl
  | cons e es ih =>
      rw [List.cons_append, preorderAllWhere, preorderAllWhere, ih, List.append_assoc]

/-- Putting elements in adds their heads and moves no other. -/
theorem Inserted.perm {es es' : List Element} {new : List Head} (hins : Inserted es new es') :
    (preorderAllWhere (fun _ => true) es').Perm
      (preorderAllWhere (fun _ => true) es ++ new) := by
  have hswap : ∀ hs gs new new' : List Head,
      (hs ++ new ++ (gs ++ new')).Perm (hs ++ gs ++ (new ++ new')) := fun hs gs new new' => by
    simp only [List.append_assoc]
    exact List.perm_append_comm_assoc new gs new' |>.append_left hs
  induction hins with
  | nil => exact .nil
  | @keep h cs es cs' es' new new' _ _ ihcs ihes =>
      simp only [preorderAllWhere, preorderWhere, if_true]
      exact ((ihcs.append ihes).trans (hswap _ _ _ _)).cons h
  | @insert h cs es cs' es' new new' _ _ ihcs ihes =>
      simp only [preorderAllWhere, preorderWhere, if_true, preorderAllWhere_append]
      exact (((ihcs.append ihes).trans (hswap _ _ _ _)).cons h).trans List.perm_middle.symm

end Element

/-- An edit of a document that puts in elements without names, whose
`fx:id`s are new. -/
structure Document.Edited (d : Document) (new : List Head) (d' : Document) : Prop where
  inserted : Element.Inserted d.root.toList new d'.root.toList
  unnamed : ∀ h ∈ new, h.identifier = none
  distinct : (new.filterMap Head.ownFxId?).Nodup
  apart : ∀ x ∈ new.filterMap Head.ownFxId?, x ∉ d.heads.filterMap (·.identifier)

namespace Document

theorem heads_eq_preorderAll (d : Document) :
    d.heads = Element.preorderAllWhere (fun _ => true) d.root.toList := by
  obtain ⟨name, root, instructions⟩ := d
  cases root with
  | none => rfl
  | some root => exact (List.append_nil _).symm

/-- After an edit of a named document the given names differ. -/
theorem Edited.nodup_given {d d' : Document} {new : List Head} (hedit : d.Edited new d')
    (hnamed : ∀ h ∈ d.heads, h.needsName = true → ∃ x, h.identifier = some x)
    (hnodup : (d.heads.filterMap (·.identifier)).Nodup) :
    (d'.heads.filterMap Head.givenName?).Nodup := by
  have hperm : d'.heads.Perm (d.heads ++ new) := by
    rw [d.heads_eq_preorderAll, d'.heads_eq_preorderAll]
    exact hedit.inserted.perm
  have hold : d.heads.filterMap Head.givenName? = d.heads.filterMap (·.identifier) :=
    List.filterMap_congr fun h hmem => Head.givenName?_eq_identifier (hnamed h hmem)
  have hnew : new.filterMap Head.givenName? = new.filterMap Head.ownFxId? :=
    List.filterMap_congr fun h hmem => Head.givenName?_of_none (hedit.unnamed h hmem)
  rw [(hperm.filterMap Head.givenName?).nodup_iff, List.filterMap_append, hold, hnew]
  refine List.nodup_append.mpr ⟨hnodup, hedit.distinct, fun x hx y hy heq => ?_⟩
  exact hedit.apart y hy (heq ▸ hx)

/-- The document named where the names that are there are taken
beforehand. -/
def namedApart (d : Document) : Document := { d with root := d.root.map Element.identifyApart }

/-- What naming does to a document of whose elements some have names. -/
structure NamedAgain (d : Document) (s : Scope) : Prop where
  /-- Elements that had names are unchanged. -/
  kept : List.Forall₂ (fun g h : Head => ∀ x, g.identifier = some x → h = g)
    d.heads (d.identify s).1.heads
  named : ∀ h ∈ (d.identify s).1.heads, h.needsName = true → ∃ x, h.identifier = some x
  apart : (d.namedApart.heads.filterMap (·.identifier)).Nodup
  /-- All names differ exactly if no new one is a name that was there. -/
  nodup_iff : ((d.identify s).1.heads.filterMap (·.identifier)).Nodup
    ↔ (d.identify s).1 = d.namedApart

theorem namedAgain {d : Document} (hgiven : (d.heads.filterMap Head.givenName?).Nodup)
    (s : Scope) : d.NamedAgain s := by
  obtain ⟨taken, pass⟩ := d.identify_pass s
  refine ⟨pass.kept, pass.exists_identifier, ?_, ?_⟩
  all_goals
    obtain ⟨name, root, instructions⟩ := d
    cases root with
    | none => simp [heads, namedApart, identify]
    | some root => ?_
  · exact Element.nodup_identifiers_identifyApart hgiven
  · refine (Element.nodup_identifiers_iff hgiven).trans ⟨fun hsame => ?_, fun hsame => ?_⟩
    · exact congrArg (fun root => Document.mk name (some root) instructions) hsame
    · exact Option.some.inj (congrArg Document.root hsame)

/-- A document without names is named, edited and named again. Earlier
names are kept, and all names differ exactly where no new one is a name
that was there. -/
theorem identify_edited {d d' : Document} {new : List Head} (s s' : Scope)
    (hnone : ∀ h ∈ d.heads, h.identifier = none)
    (hids : (d.heads.filterMap Head.ownFxId?).Nodup)
    (hedit : (d.identify s).1.Edited new d') : d'.NamedAgain s' := by
  obtain ⟨taken, pass⟩ := d.identify_pass s
  have hnodup := pass.identifiers_nodup hnone fxId_mem_fxIds hids
  exact namedAgain (hedit.nodup_given pass.exists_identifier hnodup) s'

/-! ## Two edits of one document -/

/-- A box with a button. -/
def oneButton : Document where
  name := "Main"
  root := some <| .mk { kind := .declaration (some "com.example.Main"), name := "VBox" } [
    .mk { kind := .property .instanceProperty, name := "children" } [
      .leaf { kind := .declaration none, name := "Button" }]]

/-- The box, named, with these children in place of the button. -/
def oneButtonWith (children : List Element) : Document where
  name := "Main"
  root := some <| .mk
    { kind := .declaration (some "com.example.Main"), name := "VBox", identifier := some "vBox" } [
    .mk { kind := .property .instanceProperty, name := "children"
          identifier := some "vBoxChildren" } children]

def namedButton : Element :=
  .leaf { kind := .declaration none, name := "Button", identifier := some "button" }

theorem identify_oneButton : (oneButton.identify {}).1 = oneButtonWith [namedButton] :=
  rfl

/-- The button in a new pane with an `fx:id`, behind a new label. -/
def wrappedButton : Document := oneButtonWith [
  .leaf { kind := .declaration none, name := "Label" },
  .mk { kind := .declaration none, name := "Pane", fxId := some "frame" } [namedButton]]

theorem identify_edited_wrappedButton :
    (∀ h ∈ oneButton.heads, h.identifier = none)
      ∧ (oneButton.heads.filterMap Head.ownFxId?).Nodup
      ∧ (oneButton.identify {}).1.Edited
        [{ kind := .declaration none, name := "Label" },
          { kind := .declaration none, name := "Pane", fxId := some "frame" }] wrappedButton
      ∧ (wrappedButton.identify {}).1.heads.map Head.identifierText
        = ["vBox", "vBoxChildren", "label", "frame", "button"]
      ∧ wrappedButton.NamedAgain {} := by
  have hedit : (oneButton.identify {}).1.Edited
      [{ kind := .declaration none, name := "Label" },
        { kind := .declaration none, name := "Pane", fxId := some "frame" }] wrappedButton := by
    rw [identify_oneButton]
    refine ⟨?_, by decide, by decide, by decide⟩
    exact .keep (.keep (.insert .nil (.insert (.keep .nil .nil) .nil)) .nil) .nil
  exact ⟨by decide, by decide, hedit, by decide +kernel,
    identify_edited {} {} (by decide) (by decide) hedit⟩

/-- The button with a new one in front of it. -/
def repeatedButton : Document := oneButtonWith [
  .leaf { kind := .declaration none, name := "Button" }, namedButton]

/-- The second naming gives the new button the name of the other. -/
theorem repeatedButton_not_nodup :
    (∀ h ∈ oneButton.heads, h.identifier = none)
      ∧ (oneButton.heads.filterMap (·.fxId)).Nodup
      ∧ (oneButton.identify {}).1.Edited
        [{ kind := .declaration none, name := "Button" }] repeatedButton
      ∧ (repeatedButton.identify {}).1.heads.map Head.identifierText
        = ["vBox", "vBoxChildren", "button", "button"]
      ∧ ¬ ((repeatedButton.identify {}).1.heads.filterMap (·.identifier)).Nodup := by
  refine ⟨by decide, by decide, ?_, by decide +kernel, by decide +kernel⟩
  rw [identify_oneButton]
  refine ⟨?_, by decide, by decide, by decide⟩
  exact .keep (.keep (.insert .nil (.keep .nil .nil)) .nil) .nil

end Document

end FxmlCodegen
