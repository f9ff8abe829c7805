import FxmlCodegen.Proofs.EditedDocument
import FxmlCodegen.Proofs.FirstFault
import FxmlCodegen.Proofs.LocalNames
import FxmlCodegen.Proofs.ObjectGraph
import FxmlCodegen.Proofs.RepeatedNaming

/-!
# Packages in front of type names

Documents that differ in nothing but that some types of the second have a
package in front of them (`Document.Qualifies`), on any elements and any
package each.

Most of the way from a document to its method does not see packages. A
name is made from what is behind the last dot (`freshName_qualified`), so
naming keeps the documents related and gives the same identifiers
(`Document.Qualifies.named`). Includes find the same controllers
(`Document.sameKeys_identifyAll`), and where compiling fails, it fails in
both and for the same reason (`Document.Qualifies.sameCode_report`): only
the message can tell the types apart.
-/

namespace FxmlCodegen

open Java (Sources)

/-! ## Packages in front of types -/

/-- The second head is the first, or the first with a package in front of
its type. -/
inductive Head.Qualifies : (h h' : Head) → Prop
  | keep (h : Head) : Qualifies h h
  | package {h : Head} {controller : Option String} (package : String)
      (hkind : h.kind = .declaration controller) (hsimple : '.' ∉ h.name.toList) :
      Qualifies h { h with name := package ++ "." ++ h.name }

/-- The second elements are the first with packages in front of some of
their types. -/
inductive Element.QualifiesAll : (es es' : List Element) → Prop
  | nil : QualifiesAll [] []
  | cons {h h' : Head} {cs cs' es es' : List Element} (head : h.Qualifies h')
      (inside : QualifiesAll cs cs') (after : QualifiesAll es es') :
      QualifiesAll (mk h cs :: es) (mk h' cs' :: es')

structure Document.Qualifies (d d' : Document) : Prop where
  name : d'.name = d.name
  instructions : d'.instructions = d.instructions
  tree : Element.QualifiesAll d.root.toList d'.root.toList

/-! ## Naming -/

theorem Text.localName_qualified (package : String) {name : String} (hsimple : '.' ∉ name.toList) :
    Text.localName (package ++ "." ++ name) = name := by
  have hchars : (package ++ "." ++ name).toList = package.toList ++ '.' :: name.toList := by
    simp only [String.toList_append, List.append_assoc]
    rfl
  rw [localName, afterLast, cutLast, hchars, cutLastList_append hsimple, Option.map_some]
  exact String.ofList_toList

/-- A package plays no part in a name that is made from a type. -/
theorem freshName_qualified (taken : List String) (package : String) {name : String}
    (hsimple : '.' ∉ name.toList) :
    freshName taken (package ++ "." ++ name) = freshName taken name := by
  have hbase : baseName (package ++ "." ++ name) = baseName name := by
    rw [baseName, baseName, Text.localName_qualified package hsimple, Text.localName_eq_self hsimple]
  rw [freshName, freshName, hbase]

namespace Head.Qualifies

variable {h h' : Head}

/-- Nothing but the name of the type is different. -/
theorem eq (hq : h.Qualifies h') : h' = { h with name := h'.name } := by
  cases hq <;> rfl

theorem kind (hq : h.Qualifies h') : h'.kind = h.kind := by rw [hq.eq]

theorem identifier (hq : h.Qualifies h') : h'.identifier = h.identifier := by rw [hq.eq]

theorem identifierText (hq : h.Qualifies h') : h'.identifierText = h.identifierText := by
  rw [Head.identifierText, hq.identifier]
  rfl

theorem fxId (hq : h.Qualifies h') : h'.fxId = h.fxId := by rw [hq.eq]

theorem attributes (hq : h.Qualifies h') : h'.attributes = h.attributes := by rw [hq.eq]

theorem source? (hq : h.Qualifies h') : h'.source? = h.source? := by
  rw [Head.source?, hq.kind]
  rfl

/-- Only the type of an object can have got a package. -/
theorem name_of_kind (hq : h.Qualifies h') (hkind : ∀ controller, h.kind ≠ .declaration controller) :
    h'.name = h.name := by
  cases hq with
  | keep => rfl
  | package _ hdecl _ => exact absurd hdecl (hkind _)

theorem identify (hq : h.Qualifies h') (owner : String) (taken : List String) :
    (h.identify owner taken).1.Qualifies (h'.identify owner taken).1
      ∧ (h'.identify owner taken).2 = (h.identify owner taken).2 := by
  cases hq with
  | keep => exact ⟨.keep _, rfl⟩
  | package package hkind hsimple =>
      obtain ⟨kind, name, fxId, id, identifier, attributes⟩ := h
      cases hkind
      cases identifier with
      | some x => exact ⟨.package package rfl hsimple, rfl⟩
      | none =>
          cases fxId with
          | some x => exact ⟨.package package rfl hsimple, rfl⟩
          | none =>
              cases id with
              | some seed => exact ⟨.package package rfl hsimple, rfl⟩
              | none =>
                  simp only [Head.identify, Head.identifyFresh, Head.declarationSeed,
                    Option.getD_none, freshName_qualified taken package hsimple, and_true]
                  exact .package package rfl hsimple

end Head.Qualifies

theorem map_eq_of_qualifies {α : Type} {f : Head → α}
    (hf : ∀ {h h' : Head}, h.Qualifies h' → f h' = f h) {hs hs' : List Head}
    (hq : List.Forall₂ Head.Qualifies hs hs') : hs'.map f = hs.map f := by
  induction hq with
  | nil => rfl
  | cons head _ ih => rw [List.map_cons, List.map_cons, hf head, ih]

namespace Element.QualifiesAll

variable {es es' : List Element}

/-- A walk over the heads that does not look at their types meets the same
ones. -/
theorem preorderAllWhere {descend : Head → Bool}
    (hdescend : ∀ {h h' : Head}, h.Qualifies h' → descend h' = descend h)
    (hq : QualifiesAll es es') :
    List.Forall₂ Head.Qualifies (Element.preorderAllWhere descend es)
      (Element.preorderAllWhere descend es') := by
  induction hq with
  | nil => exact .nil
  | cons head _ _ ihinside ihafter =>
      rw [Element.preorderAllWhere, Element.preorderAllWhere, preorderWhere, preorderWhere,
        hdescend head]
      refine List.rel_append (.cons head ?_) ihafter
      split
      · exact ihinside
      · exact .nil

theorem constructedAll (hq : QualifiesAll es es') :
    List.Forall₂ Head.Qualifies (Element.constructedAll es) (Element.constructedAll es') := by
  induction hq with
  | nil => exact .nil
  | @cons h h' _ _ _ _ head _ _ ihinside ihafter =>
      rw [Element.constructedAll, Element.constructedAll, constructed, constructed, head.kind]
      refine List.rel_append ?_ ihafter
      split
      · exact .cons head ihinside
      · exact .cons head .nil
      · exact ihinside
      · exact .nil

theorem constructed (hq : QualifiesAll es es') {h h' : Head} (head : h.Qualifies h') :
    List.Forall₂ Head.Qualifies (mk h es).constructed (mk h' es').constructed := by
  have hone := (QualifiesAll.cons head hq .nil).constructedAll
  simpa only [Element.constructedAll, List.append_nil] using hone

theorem identifyAll (hq : QualifiesAll es es') (owner : String) (taken : List String) :
    QualifiesAll (Element.identifyAll owner es taken).1 (Element.identifyAll owner es' taken).1
      ∧ (Element.identifyAll owner es' taken).2 = (Element.identifyAll owner es taken).2 := by
  induction hq generalizing owner taken with
  | nil => exact ⟨.nil, rfl⟩
  | @cons h h' _ _ _ _ head _ _ ihinside ihafter =>
      obtain ⟨hhead, htaken⟩ := head.identify owner taken
      have howner : (h'.identify owner taken).1.ownerBelow owner
          = (h.identify owner taken).1.ownerBelow owner := by
        rw [Head.ownerBelow, hhead.kind, hhead.identifierText]
        rfl
      simp only [Element.identifyAll, Element.identify, htaken, howner, (ihinside _ _).2]
      exact ⟨.cons hhead (ihinside _ _).1 (ihafter _ _).1, (ihafter _ _).2⟩

end Element.QualifiesAll

namespace Document.Qualifies

variable {d d' : Document}

/-- Either both documents have a root or none has. -/
theorem root_cases (hq : d.Qualifies d') :
    (d.root = none ∧ d'.root = none)
      ∨ ∃ h h' cs cs', d.root = some (.mk h cs) ∧ d'.root = some (.mk h' cs') ∧ h.Qualifies h'
        ∧ Element.QualifiesAll cs cs' := by
  have htree := hq.tree
  cases hroot : d.root with
  | none =>
      rw [hroot] at htree
      cases hroot' : d'.root with
      | none => exact Or.inl ⟨rfl, rfl⟩
      | some root' =>
          rw [hroot'] at htree
          cases htree
  | some root =>
      rw [hroot] at htree
      cases hroot' : d'.root with
      | none =>
          rw [hroot'] at htree
          cases htree
      | some root' =>
          rw [hroot'] at htree
          cases htree with
          | cons head inside _ => exact Or.inr ⟨_, _, _, _, rfl, rfl, head, inside⟩

theorem heads (hq : d.Qualifies d') : List.Forall₂ Head.Qualifies d.heads d'.heads := by
  rw [d.heads_eq_preorderAll, d'.heads_eq_preorderAll]
  exact hq.tree.preorderAllWhere fun _ => rfl

theorem includeKey (hq : d.Qualifies d') : d'.includeKey = d.includeKey := by
  rw [Document.includeKey, hq.name]
  rfl

/-- So do both have an object as root, with one controller, or none. -/
theorem rootObject?_cases (hq : d.Qualifies d') :
    (d.rootObject? = none ∧ d'.rootObject? = none)
      ∨ ∃ h h' cs cs' controller, d.rootObject? = some (.mk h cs, controller)
        ∧ d'.rootObject? = some (.mk h' cs', controller) ∧ h.Qualifies h'
        ∧ Element.QualifiesAll cs cs' := by
  unfold Document.rootObject?
  obtain ⟨hroot, hroot'⟩ | ⟨h, h', cs, cs', hroot, hroot', head, inside⟩ := hq.root_cases
  · rw [hroot, hroot']
    exact Or.inl ⟨rfl, rfl⟩
  · rw [hroot, hroot']
    simp only [Element.head, head.kind]
    split
    · exact Or.inr ⟨h, h', cs, cs', _, rfl, rfl, head, inside⟩
    · exact Or.inl ⟨rfl, rfl⟩

theorem controller? (hq : d.Qualifies d') : d'.controller? = d.controller? := by
  unfold Document.controller?
  obtain ⟨hroot, hroot'⟩ | ⟨h, h', cs, cs', controller, hroot, hroot', -⟩ := hq.rootObject?_cases
  · rw [hroot, hroot']
  · rw [hroot, hroot']
    rfl

theorem isSome_rootType? (hq : d.Qualifies d') : d'.rootType?.isSome = d.rootType?.isSome := by
  unfold Document.rootType?
  obtain ⟨hroot, hroot'⟩ | ⟨h, h', cs, cs', controller, hroot, hroot', -⟩ := hq.rootObject?_cases
  · rw [hroot, hroot']
  · rw [hroot, hroot']
    rfl

/-- Naming gives the same names. -/
theorem named (hq : d.Qualifies d') : d.named.Qualifies d'.named := by
  refine ⟨?_, ?_, ?_⟩
  · rw [name_named, name_named, hq.name]
  · rw [instructions_named, instructions_named, hq.instructions]
  · have hids : d'.heads.map (·.fxId) = d.heads.map (·.fxId) :=
      map_eq_of_qualifies (fun head => head.fxId) hq.heads
    obtain ⟨name, root, instructions⟩ := d
    obtain ⟨name', root', instructions'⟩ := d'
    obtain ⟨hroot, hroot'⟩ | ⟨h, h', cs, cs', hroot, hroot', head, inside⟩ := hq.root_cases
    · cases hroot
      cases hroot'
      exact .nil
    · cases hroot
      cases hroot'
      have hfxIds : (Element.mk h' cs').fxIds = (Element.mk h cs).fxIds := by
        have hreduce := congrArg (List.filterMap id) hids
        rwa [List.filterMap_map, List.filterMap_map] at hreduce
      show Element.QualifiesAll [((Element.mk h cs).identify "" (Element.mk h cs).fxIds).1]
        [((Element.mk h' cs').identify "" (Element.mk h' cs').fxIds).1]
      rw [hfxIds]
      exact (hq.tree.identifyAll "" (Element.mk h cs).fxIds).1

end Document.Qualifies

/-! ## Include targets -/

/-- The scopes know the same keys, with the same controllers. -/
structure Scope.SameKeys (s s' : Scope) : Prop where
  controllers : ∀ key, s'.controllers.get? key = s.controllers.get? key
  factories : ∀ key, (s'.factories.get? key).isSome = (s.factories.get? key).isSome

namespace Document

theorem Qualifies.sameKeys_identify {d d' : Document} (hq : d.Qualifies d') {s s' : Scope}
    (hs : s.SameKeys s') : (d.identify s).2.SameKeys (d'.identify s').2 where
  controllers key := by
    rw [(d'.targets_identify s').1, (d.targets_identify s).1, Table.get?_elim_put,
      Table.get?_elim_put, hq.controller?, hq.includeKey, hs.controllers]
  factories key := by
    rw [(d'.targets_identify s').2, (d.targets_identify s).2, Table.get?_elim_put,
      Table.get?_elim_put, Option.isSome_or, Option.isSome_or, hq.includeKey, hs.factories]
    split
    · rw [hq.isSome_rootType?]
    · rfl

theorem sameKeys_identifyAll {ds ds' : List Document} (hq : List.Forall₂ Qualifies ds ds')
    {s s' : Scope} (hs : s.SameKeys s') : (identifyAll ds s).2.SameKeys (identifyAll ds' s').2 := by
  induction hq generalizing s s' with
  | nil => exact hs
  | cons hd _ ih => exact ih (hd.sameKeys_identify hs)

end Document

/-! ## What a document fails with -/

/-- The failures are of one kind, or there is none. -/
def SameCode (failure failure' : Option Failure) : Prop :=
  failure'.map Failure.code = failure.map Failure.code

theorem SameCode.or {x x' y y' : Option Failure} (hx : SameCode x x') (hy : SameCode y y') :
    SameCode (x.or y) (x'.or y') := by
  rw [SameCode, Option.map_or, Option.map_or, hx, hy]

theorem Head.Qualifies.sameCode_fault? {h h' : Head} (hq : h.Qualifies h') {s s' : Scope}
    (hs : s.SameKeys s') : SameCode (h.fault? s) (h'.fault? s') := by
  have hname : SameCode h.nameFault? h'.nameFault? := by
    rw [SameCode, nameFault?, nameFault?, hq.identifierText]
    split <;> rfl
  unfold fault?
  rw [hq.kind]
  split
  · exact hname
  · exact hname
  · rw [hs.controllers, hs.factories]
    split
    · exact hname
    · rfl
  · rfl

theorem sameCode_findSome? {s s' : Scope} (hkeys : s.SameKeys s') {hs hs' : List Head}
    (hq : List.Forall₂ Head.Qualifies hs hs') :
    SameCode (hs.findSome? (Head.fault? s)) (hs'.findSome? (Head.fault? s')) := by
  induction hq with
  | nil => rfl
  | @cons h h' hs hs' head _ ih =>
      rw [← List.singleton_append, ← @List.singleton_append _ h', List.findSome?_append,
        List.findSome?_append, List.findSome?_singleton, List.findSome?_singleton]
      exact (head.sameCode_fault? hkeys).or ih

theorem Document.Qualifies.sameCode_report {d d' : Document} (hq : d.Qualifies d') {s s' : Scope}
    (hkeys : s.SameKeys s') (sources : Sources) :
    SameCode (d.report s sources) (d'.report s' sources) := by
  unfold Document.report
  obtain ⟨hroot, hroot'⟩ | ⟨h, h', cs, cs', hroot, hroot', head, -⟩ := hq.root_cases
  · rw [hroot, hroot']
    rfl
  · have hreached : List.Forall₂ Head.Qualifies (Element.mk h cs).reached
        (Element.mk h' cs').reached := by
      have hdescend : ∀ {g g' : Head}, g.Qualifies g' →
          (fun h => h.source?.isNone) g' = (fun h => h.source?.isNone) g := fun hg => by
        simp only [hg.source?]
      have hall := hq.tree.preorderAllWhere hdescend
      rw [hroot, hroot'] at hall
      simp only [Option.toList_some, Element.preorderAllWhere, List.append_nil] at hall
      exact hall
    rw [hroot, hroot']
    simp only [Element.head, head.kind]
    split
    · rfl
    · refine (sameCode_findSome? hkeys hreached).or ?_
      rw [hq.name]
      rfl
    · rw [hq.name]
      rfl

end FxmlCodegen
