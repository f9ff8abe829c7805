import FxmlCodegen.Proofs.EditedDocument
import FxmlCodegen.Proofs.FirstFault
import FxmlCodegen.Proofs.FlatNaming
import FxmlCodegen.Proofs.LocalNames

/-!
# Empty names

Naming gives every declaration, include and property a name, but it may be
the empty one. An empty `fx:id` is used as it is, and nothing may be left of
the seed of a made name: of an `id` that is empty or ends in a dot, of such a
name of an element, or of the name of a property together with the variable
it belongs to. The first element of this sort is given the empty name, unless
that is reserved: a property or an element without code may have it for its
`fx:id`. All this can be seen before the document is named
(`Document.Unnameable`), and there is no other way to an empty name
(`Document.exists_identifier_eq_empty_iff`).

Names are given while others are being taken. What is needed of that is that
names once taken stay so (`Head.NamedBetween`), with the nearest object
around an element as the only other one that matters to its name
(`Element.headAt?_identify`).

An empty name is no name to code generation. So documents compile, as far as
names go, if none of them is unnameable, and only an unnameable one fails
for want of a name (`Document.identifyAll_namesGiven`).
-/

namespace FxmlCodegen

open Java (Sources)

/-! ## One head -/

namespace Head

/-- What an object is called by, before a number is put behind it. -/
def callName (h : Head) : String := h.fxId.getD h.declarationSeed

theorem localName_propertySeed {owner : String} {h : Head} :
    Text.localName (h.propertySeed owner) = ""
      ↔ Text.localName h.name = "" ∧ (h.name = "" → Text.localName owner = "") := by
  rw [propertySeed, Text.upperFirst_eq, Text.lowerFirst_eq, Text.localName_append,
    Text.localName_overFirst Text.keepsDots_upperForm,
    Text.localName_overFirst Text.keepsDots_lowerForm,
    Text.overFirst_eq_empty Text.keepsDots_upperForm]

/-- Of the owner no more matters to what is left of a seed than what is left
of it. -/
theorem baseName_seed_of_imp {owner owner' : String}
    (himp : Text.localName owner = "" → Text.localName owner' = "") {h : Head}
    (hbase : baseName (h.seed owner) = "") : baseName (h.seed owner') = "" := by
  rw [baseName_eq_empty_iff] at hbase ⊢
  unfold seed at hbase ⊢
  split at hbase
  · rw [localName_propertySeed] at hbase ⊢
    exact ⟨hbase.1, fun hname => himp (hbase.2 hname)⟩
  · exact hbase

/-- The name of a head that had none. -/
theorem identifier_identify {h : Head} (hnone : h.identifier = none) (owner : String)
    (taken : List String) :
    (h.identify owner taken).1.identifier
      = h.ownFxId?.or (if h.needsName then some (freshName taken (h.seed owner)) else none) := by
  obtain ⟨kind, name, fxId, id, identifier, attributes⟩ := h
  cases hnone
  cases kind with
  | declaration _ | «include» _ => cases fxId <;> rfl
  | _ => rfl

/-- The second head is the first, named for this owner when some names
between these were taken. -/
def NamedBetween (taken taken' : List String) (owner : String) (h h' : Head) : Prop :=
  ∃ t, taken ⊆ t ∧ t ⊆ taken' ∧ h' = (h.identify owner t).1

namespace NamedBetween

variable {taken taken' : List String} {owner : String} {h h' : Head}

theorem identifier_of_fxId (hby : NamedBetween taken taken' owner h h')
    (hnone : h.identifier = none) {x : String} (hfx : h.ownFxId? = some x) :
    h'.identifier = some x := by
  obtain ⟨t, -, -, rfl⟩ := hby
  rw [identifier_identify hnone, hfx, Option.some_or]

theorem identifier_of_seed (hby : NamedBetween taken taken' owner h h')
    (hnone : h.identifier = none) (hneeds : h.needsName = true) (hfx : h.ownFxId? = none) :
    ∃ t, taken ⊆ t ∧ t ⊆ taken' ∧ h'.identifier = some (freshName t (h.seed owner)) := by
  obtain ⟨t, hsub, hsub', rfl⟩ := hby
  exact ⟨t, hsub, hsub', by rw [identifier_identify hnone, hfx, Option.none_or, if_pos hneeds]⟩

/-- How a head that had no name comes by an empty one. -/
theorem of_identifier_eq_empty (hby : NamedBetween taken taken' owner h h')
    (hnone : h.identifier = none) (hempty : h'.identifier = some "") :
    h.ownFxId? = some ""
      ∨ (h.needsName = true ∧ h.ownFxId? = none ∧ baseName (h.seed owner) = "" ∧ "" ∉ taken) := by
  obtain ⟨t, hsub, -, rfl⟩ := hby
  rw [identifier_identify hnone] at hempty
  rcases Option.or_eq_some_iff.mp hempty with hfx | ⟨hfx, hmade⟩
  · exact Or.inl hfx
  · split at hmade
    · rename_i hneeds
      obtain ⟨hbase, hfree⟩ := freshName_eq_empty_iff.mp (Option.some.inj hmade)
      exact Or.inr ⟨hneeds, hfx, hbase, fun hin => hfree (hsub hin)⟩
    · cases hmade

theorem mono {t t' : List String} (hby : NamedBetween t t' owner h h') (hsub : taken ⊆ t)
    (hsub' : t' ⊆ taken') : NamedBetween taken taken' owner h h' := by
  obtain ⟨u, hu, hu', heq⟩ := hby
  exact ⟨u, fun x hx => hu (hsub hx), fun x hx => hsub' (hu' hx), heq⟩

/-- Of the variable of an object as much is left as of what it is called
by, unless the empty name is taken. -/
theorem localName_identifierText (hby : NamedBetween taken taken' owner h h')
    (hnone : h.identifier = none) (hdecl : h.isDeclaration = true) :
    (Text.localName h'.identifierText = "" → Text.localName h.callName = "")
      ∧ ("" ∉ taken' → Text.localName h.callName = "" → Text.localName h'.identifierText = "") := by
  have hown : h.ownFxId? = h.fxId ∧ h.needsName = true ∧ h.seed owner = h.declarationSeed := by
    unfold isDeclaration at hdecl
    unfold ownFxId? needsName isObject seed
    split at hdecl
    · rename_i controller hkind
      simp [hkind]
    · cases hdecl
  obtain ⟨hfxId, hneeds, hseed⟩ := hown
  cases hfx : h.fxId with
  | some x =>
      have hx := hby.identifier_of_fxId hnone (hfxId.trans hfx)
      have htext : h'.identifierText = h.callName := by
        rw [identifierText, hx, callName, hfx]
        rfl
      rw [htext]
      exact ⟨fun hcall => hcall, fun _ hcall => hcall⟩
  | none =>
      obtain ⟨t, -, hsub', hx⟩ := hby.identifier_of_seed hnone hneeds (hfxId.trans hfx)
      have htext : Text.localName h'.identifierText = ""
          ↔ Text.localName h.callName = "" ∧ "" ∉ t := by
        rw [identifierText, hx, Option.getD_some, localName_freshName, freshName_eq_empty_iff,
          baseName_eq_empty_iff, hseed, callName, hfx]
        rfl
      rw [htext]
      exact ⟨And.left, fun hfree hcall => ⟨hcall, fun hin => hfree (hsub' hin)⟩⟩

end NamedBetween

end Head

/-! ## The nearest object -/

theorem Head.ownerBelow_identify (owner : String) (h : Head) (taken : List String) :
    (h.identify owner taken).1.ownerBelow owner
      = if h.isDeclaration then (h.identify owner taken).1.identifierText else owner := by
  unfold ownerBelow isDeclaration
  rw [kind_identify]
  cases h.kind <;> rfl

namespace Element

theorem subset_identify (owner : String) (e : Element) (taken : List String) :
    taken ⊆ (e.identify owner taken).2 :=
  (e.identify_pass owner taken).taken_spec.1

theorem subset_identifyAll (owner : String) (es : List Element) (taken : List String) :
    taken ⊆ (identifyAll owner es taken).2 :=
  (identifyAll_pass owner es taken).taken_spec.1

theorem getElem?_identifyAll (owner : String) : ∀ {es : List Element} (taken : List String)
    {i : Nat} {e : Element}, es[i]? = some e →
      ∃ t, taken ⊆ t ∧ (e.identify owner t).2 ⊆ (identifyAll owner es taken).2
        ∧ (identifyAll owner es taken).1[i]? = some (e.identify owner t).1
  | [], _, _, _, hi => by cases hi
  | e :: es, taken, 0, _, hi => by
      cases hi
      exact ⟨taken, List.Subset.refl _, subset_identifyAll owner es _, rfl⟩
  | e :: es, taken, i + 1, e', hi => by
      rw [List.getElem?_cons_succ] at hi
      obtain ⟨t, hsub, hsub', hget⟩ := getElem?_identifyAll owner (e.identify owner taken).2 hi
      exact ⟨t, fun x hx => hsub (subset_identify owner e taken hx), hsub', hget⟩

/-- The variable is that of the nearest object, named between these, or
`owner` outside of all. -/
def NamesOwner (taken taken' : List String) (owner var : String) : Option Head → Prop
  | none => var = owner
  | some g => ∃ o g', g.NamedBetween taken taken' o g' ∧ var = g'.identifierText

theorem NamesOwner.mono {taken taken' t t' : List String} {owner var : String} :
    ∀ {nearest : Option Head}, NamesOwner t t' owner var nearest → taken ⊆ t → t' ⊆ taken' →
      NamesOwner taken taken' owner var nearest
  | none, hvar, _, _ => hvar
  | some _, ⟨o, g', hby, hvar⟩, hsub, hsub' => ⟨o, g', hby.mono hsub hsub', hvar⟩

theorem nearest?_cons {h : Head} {cs : List Element} {i : Nat} {c : Element}
    (hi : cs[i]? = some c) (path : List Nat) :
    (mk h cs).nearest? (i :: path)
      = (c.nearest? path).or (if h.isDeclaration then some h else none) := by
  rw [nearest?, around, children, hi, Option.elim_some, List.find?_append, List.find?_singleton]
  rfl

/-- The element at a path is named for the nearest object around it, when
names were taken that go on being taken. -/
theorem headAt?_identify : ∀ {path : List Nat} {e : Element} (owner : String)
    (taken : List String) {h : Head}, e.headAt? path = some h →
      ∃ var h', (e.identify owner taken).1.headAt? path = some h'
        ∧ h.NamedBetween taken (e.identify owner taken).2 var h'
        ∧ NamesOwner taken (e.identify owner taken).2 owner var (e.nearest? path)
  | [], mk h cs, owner, taken, _, hhead => by
      cases hhead
      refine ⟨owner, (h.identify owner taken).1, rfl, ⟨taken, List.Subset.refl _, ?_, rfl⟩, rfl⟩
      exact subset_identify owner (mk h cs) taken
  | i :: path, mk g cs, owner, taken, h, hhead => by
      rw [headAt?, children] at hhead
      obtain ⟨c, hi, hpath⟩ := Option.bind_eq_some_iff.mp hhead
      obtain ⟨t, hsub, hsub', hget⟩ := getElem?_identifyAll
        ((g.identify owner taken).1.ownerBelow owner) (g.identify owner taken).2 hi
      obtain ⟨var, h', hnamed, hby, howner⟩ := headAt?_identify _ t hpath
      have hbefore : taken ⊆ t := fun x hx => hsub (subset_identify owner (mk g []) taken hx)
      refine ⟨var, h', ?_, hby.mono hbefore hsub', ?_⟩
      · exact Option.bind_eq_some_iff.mpr ⟨_, hget, hnamed⟩
      · rw [nearest?_cons hi]
        cases hnear : c.nearest? path with
        | some f =>
            rw [hnear] at howner
            exact howner.mono hbefore hsub'
        | none =>
            rw [hnear] at howner
            rw [NamesOwner, Head.ownerBelow_identify] at howner
            split at howner
            · rename_i hdecl
              rw [if_pos hdecl]
              exact ⟨owner, _, ⟨taken, List.Subset.refl _, subset_identify owner (mk g cs) taken, rfl⟩,
                howner⟩
            · rename_i hdecl
              rw [if_neg hdecl]
              exact howner

/-! ## Heads and paths -/

mutual

theorem paths_identify (owner : String) :
    ∀ (e : Element) (taken : List String), (e.identify owner taken).1.paths = e.paths
  | mk h cs, taken => by
      simp only [identify, paths]
      rw [pathsFrom_identifyAll _ 0 cs]

theorem pathsFrom_identifyAll (owner : String) :
    ∀ (i : Nat) (es : List Element) (taken : List String),
      pathsFrom i (identifyAll owner es taken).1 = pathsFrom i es
  | _, [], _ => rfl
  | i, e :: es, taken => by
      simp only [identifyAll, pathsFrom]
      rw [paths_identify owner e, pathsFrom_identifyAll owner (i + 1) es]

end

theorem mem_preorder_iff {e : Element} {h : Head} :
    h ∈ e.preorder ↔ ∃ path ∈ e.paths, e.headAt? path = some h := by
  rw [← List.mem_map, map_headAt?_paths]
  simp

theorem exists_headAt? {e : Element} {path : List Nat} (hpath : path ∈ e.paths) :
    ∃ h ∈ e.preorder, e.headAt? path = some h := by
  have hmem : e.headAt? path ∈ e.preorder.map some :=
    map_headAt?_paths e ▸ List.mem_map_of_mem hpath
  obtain ⟨h, hh, heq⟩ := List.mem_map.mp hmem
  exact ⟨h, hh, heq.symm⟩

theorem preorder_subset_of_mem {h : Head} {cs : List Element} {c : Element} (hc : c ∈ cs) :
    c.preorder ⊆ (mk h cs).preorder := by
  obtain ⟨before, after, rfl⟩ := List.append_of_mem hc
  rw [preorder, preorder, preorderWhere, if_pos rfl, preorderAllWhere_append, preorderAllWhere]
  intro g hg
  exact List.mem_cons_of_mem h (List.mem_append_right _ (List.mem_append_left _ hg))

theorem around_subset : ∀ (path : List Nat) (e : Element), e.around path ⊆ e.preorder
  | [], _ => List.nil_subset _
  | i :: path, mk h cs => by
      intro g hg
      rw [around, children] at hg
      rcases List.mem_append.mp hg with hg | hg
      · cases hi : cs[i]? with
        | none =>
            rw [hi] at hg
            cases hg
        | some c =>
            rw [hi] at hg
            exact preorder_subset_of_mem (List.mem_of_getElem? hi) (around_subset path c hg)
      · rw [List.mem_singleton.mp hg]
        exact List.mem_cons_self

/-! ## Elements without a name -/

/-- There is no name but the empty one for some element: an object has the
empty text for its `fx:id`; or no element has, and nothing is left of the
seed of one. In the seed of a property the object around it goes by what it
is called. -/
def Unnameable (e : Element) : Prop :=
  (∃ h ∈ e.preorder, h.ownFxId? = some "")
    ∨ "" ∉ e.fxIds ∧ ∃ path ∈ e.paths, ∃ h ∈ e.headAt? path,
      h.needsName = true ∧ h.ownFxId? = none
        ∧ baseName (h.seed ((e.nearest? path).elim "" Head.callName)) = ""

instance : DecidablePred Unnameable := fun _ => inferInstanceAs (Decidable (_ ∨ _ ∧ _))

/-- As much is left of the variable of the nearest object as of what it is
called by, unless the empty name is taken. -/
theorem NamesOwner.localName_iff {e : Element} {taken taken' : List String} {var : String}
    {path : List Nat} (hnone : ∀ h ∈ e.preorder, h.identifier = none)
    (howner : NamesOwner taken taken' "" var (e.nearest? path)) :
    (Text.localName var = "" → Text.localName ((e.nearest? path).elim "" Head.callName) = "")
      ∧ ("" ∉ taken' → Text.localName ((e.nearest? path).elim "" Head.callName) = "" →
        Text.localName var = "") := by
  cases hnear : e.nearest? path with
  | none =>
      rw [hnear] at howner
      cases howner
      exact ⟨fun hleft => hleft, fun _ hleft => hleft⟩
  | some g =>
      rw [hnear] at howner
      obtain ⟨o, g', hby, rfl⟩ := howner
      have hg : g ∈ e.preorder := around_subset path e (List.mem_of_find?_eq_some hnear)
      exact hby.localName_identifierText (hnone g hg) (List.find?_some hnear)

/-- Naming gives out the empty name exactly if there is no other for some
element. -/
theorem exists_identifier_eq_empty_iff {e : Element}
    (hnone : ∀ h ∈ e.preorder, h.identifier = none) :
    (∃ h ∈ (e.identify "" e.fxIds).1.preorder, h.identifier = some "") ↔ e.Unnameable := by
  constructor
  · rintro ⟨h', hmem, hempty⟩
    obtain ⟨path, hpath, hat'⟩ := mem_preorder_iff.mp hmem
    rw [paths_identify] at hpath
    obtain ⟨h, hh, hat⟩ := exists_headAt? hpath
    obtain ⟨var, g, hnamed, hby, howner⟩ := headAt?_identify "" e.fxIds hat
    cases hnamed.symm.trans hat'
    rcases hby.of_identifier_eq_empty (hnone h hh) hempty with hfx | ⟨hneeds, hfx, hbase, hfree⟩
    · exact Or.inl ⟨h, hh, hfx⟩
    · refine Or.inr ⟨hfree, path, hpath, h, hat, hneeds, hfx, ?_⟩
      exact Head.baseName_seed_of_imp (howner.localName_iff hnone).1 hbase
  · rintro (⟨h, hh, hfx⟩ | ⟨hfree, path, hpath, h, hat, hneeds, hfx, hbase⟩)
    · obtain ⟨path, hpath, hat⟩ := mem_preorder_iff.mp hh
      obtain ⟨var, h', hnamed, hby, -⟩ := headAt?_identify "" e.fxIds hat
      rw [← paths_identify "" e e.fxIds] at hpath
      exact ⟨h', mem_preorder_iff.mpr ⟨path, hpath, hnamed⟩,
        hby.identifier_of_fxId (hnone h hh) hfx⟩
    · obtain ⟨var, h', hnamed, hby, howner⟩ := headAt?_identify "" e.fxIds hat
      have hh : h ∈ e.preorder := mem_preorder_iff.mpr ⟨path, hpath, hat⟩
      -- If the empty name is not given to another, it is free for this one.
      by_cases hgiven : "" ∈ (e.identify "" e.fxIds).2
      · have hlater := ((e.identify_pass "" e.fxIds).taken_spec.2 "" hgiven).resolve_left hfree
        exact List.mem_filterMap.mp hlater
      · obtain ⟨t, -, hsub', hx⟩ := hby.identifier_of_seed (hnone h hh) hneeds hfx
        have hleft := Head.baseName_seed_of_imp ((howner.localName_iff hnone).2 hgiven) hbase
        rw [freshName_eq_empty_iff.mpr ⟨hleft, fun hin => hgiven (hsub' hin)⟩] at hx
        rw [← paths_identify "" e e.fxIds] at hpath
        exact ⟨h', mem_preorder_iff.mpr ⟨path, hpath, hnamed⟩, hx⟩

end Element

namespace Document

/-- There is no name but the empty one for some element of the document. -/
def Unnameable (d : Document) : Prop := ∃ root ∈ d.root, root.Unnameable

instance : DecidablePred Unnameable := fun d =>
  inferInstanceAs (Decidable (∃ root ∈ d.root, root.Unnameable))

theorem exists_identifier_eq_empty_iff {d : Document} (hnone : ∀ h ∈ d.heads, h.identifier = none) :
    (∃ h ∈ d.named.heads, h.identifier = some "") ↔ d.Unnameable := by
  obtain ⟨name, root, instructions⟩ := d
  cases root with
  | none =>
      constructor
      · rintro ⟨h, hh, -⟩
        cases hh
      · rintro ⟨root, hroot, -⟩
        cases hroot
  | some root =>
      refine (root.exists_identifier_eq_empty_iff hnone).trans ⟨fun hno => ⟨root, rfl, hno⟩, ?_⟩
      rintro ⟨root', hroot, hno⟩
      cases hroot
      exact hno

theorem identifier_ne_empty_iff {d : Document} (hnone : ∀ h ∈ d.heads, h.identifier = none) :
    (∀ h ∈ d.named.heads, h.needsName = true → ∃ x ∈ h.identifier, x ≠ "") ↔ ¬ d.Unnameable := by
  obtain ⟨taken, pass⟩ := d.identify_pass {}
  rw [← exists_identifier_eq_empty_iff hnone]
  constructor
  · rintro hne ⟨h, hh, hempty⟩
    obtain ⟨x, hx, hxne⟩ := hne h hh (pass.needsName_of_identifier hnone h hh "" hempty)
    exact hxne (Option.some.inj (hx.symm.trans hempty))
  · intro hno h hh hneeds
    obtain ⟨x, hx⟩ := pass.exists_identifier h hh hneeds
    exact ⟨x, hx, fun hempty => hno ⟨h, hh, hempty ▸ hx⟩⟩

end Document

/-! ## Failing for want of a name -/

theorem Head.of_fault?_missingIdentifier {scope : Scope} {h : Head} {element : String}
    (hfault : h.fault? scope = some (.missingIdentifier element)) :
    h.needsName = true ∧ h.name = element ∧ h.identifierText = "" := by
  have hname : h.nameFault? = some (.missingIdentifier element) →
      h.name = element ∧ h.identifierText = "" := by
    unfold nameFault?
    split
    · rename_i htext
      intro heq
      cases heq
      exact ⟨rfl, htext⟩
    · intro heq
      cases heq
  unfold fault? at hfault
  unfold needsName isObject isProperty
  cases hkind : h.kind with
  | declaration controller => exact ⟨rfl, hname (by simpa [hkind] using hfault)⟩
  | property kind => exact ⟨rfl, hname (by simpa [hkind] using hfault)⟩
  | «include» source =>
      simp only [hkind] at hfault
      split at hfault
      · exact ⟨rfl, hname hfault⟩
      · cases hfault
  | _ => simp [hkind] at hfault

namespace Element

mutual

theorem preorderWhere_subset (descend : Head → Bool) :
    ∀ e : Element, e.preorderWhere descend ⊆ e.preorder
  | mk h cs => by
      rw [preorder, preorderWhere, preorderWhere, if_pos rfl]
      split
      · exact List.cons_subset_cons h (preorderAllWhere_subset descend cs)
      · exact List.cons_subset_cons h (List.nil_subset _)

theorem preorderAllWhere_subset (descend : Head → Bool) :
    ∀ es : List Element, preorderAllWhere descend es ⊆ preorderAllWhere (fun _ => true) es
  | [] => List.Subset.refl _
  | e :: es => by
      rw [preorderAllWhere, preorderAllWhere]
      intro h hh
      rcases List.mem_append.mp hh with hh | hh
      · exact List.mem_append_left _ (preorderWhere_subset descend e hh)
      · exact List.mem_append_right _ (preorderAllWhere_subset descend es hh)

end

end Element

namespace Document

theorem reached_subset (d : Document) : d.reached ⊆ d.heads := by
  obtain ⟨name, root, instructions⟩ := d
  cases root with
  | none => exact List.Subset.refl _
  | some root => exact root.preorderWhere_subset _

theorem of_report_missingIdentifier {d : Document} {scope : Scope} {sources : Sources}
    {element : String} (hreport : d.report scope sources = some (.missingIdentifier element)) :
    ∃ h ∈ d.reached, h.fault? scope = some (.missingIdentifier element) := by
  unfold report at hreport
  unfold reached
  cases hroot : d.root with
  | none =>
      rw [hroot] at hreport
      cases hreport
  | some root =>
      simp only [hroot] at hreport ⊢
      split at hreport
      · cases hreport
      · rcases Option.or_eq_some_iff.mp hreport with hfault | ⟨-, hfile⟩
        · exact List.exists_of_findSome?_eq_some hfault
        · split at hfile <;> cases hfile
      · cases hreport

/-! ## Batches -/

/-- What comes of naming documents that had no names. -/
structure NamesGiven (ds : List Document) (s : Scope) : Prop where
  /-- Every declaration, include and property has a name. -/
  named : ∀ d ∈ (identifyAll ds s).1, ∀ h ∈ d.heads, h.needsName = true →
    ∃ x, h.identifier = some x
  /-- None of these is empty exactly if no document is unnameable. -/
  nonempty : (∀ d ∈ (identifyAll ds s).1, ∀ h ∈ d.heads, h.needsName = true →
    ∃ x ∈ h.identifier, x ≠ "") ↔ ∀ d ∈ ds, ¬ d.Unnameable
  /-- Compiling fails for want of a name on an unnameable document only,
  and tells the element whose name is empty. -/
  missing : ∀ (options : Options) (handler : Handler) (scope : Scope) (sources : Sources)
      (element : String),
    (compileAll options handler (identifyAll ds s).1 scope sources).result
        = .error (.missingIdentifier element) →
      ∃ d ∈ ds, d.Unnameable
        ∧ ∃ h ∈ d.named.reached, h.name = element ∧ h.identifier = some ""

/-- Documents that had no names are given them, and none is empty or found
missing by code generation unless a document is unnameable. -/
theorem identifyAll_namesGiven (ds : List Document) (s : Scope)
    (hnone : ∀ d ∈ ds, ∀ h ∈ d.heads, h.identifier = none) : NamesGiven ds s := by
  have hnamed : ∀ d ∈ ds.map named, ∀ h ∈ d.heads, h.needsName = true →
      ∃ x, h.identifier = some x := by
    intro d hd
    obtain ⟨d, -, rfl⟩ := List.mem_map.mp hd
    obtain ⟨taken, pass⟩ := d.identify_pass {}
    exact pass.exists_identifier
  refine ⟨?_, ?_, fun options handler scope sources element hfail => ?_⟩
  · rw [identifyAll_fst]
    exact hnamed
  · rw [identifyAll_fst, List.forall_mem_map]
    exact forall₂_congr fun d hd => identifier_ne_empty_iff (hnone d hd)
  · rw [identifyAll_fst] at hfail
    obtain ⟨done, d', rest, -, scope', sources', hsplit, -, hd', -, -⟩ := compileAll_error hfail
    have hmem : d' ∈ ds.map named := by simp [hsplit]
    have hreport : d'.report scope' sources' = some (.missingIdentifier element) := by
      rw [← failure?_compile options handler]
      exact failure?_eq_some.mpr hd'
    obtain ⟨h, hh, hfault⟩ := of_report_missingIdentifier hreport
    obtain ⟨hneeds, hname, htext⟩ := Head.of_fault?_missingIdentifier hfault
    obtain ⟨x, hx⟩ := hnamed d' hmem h (d'.reached_subset hh) hneeds
    have hempty : h.identifier = some "" := by
      rw [Head.identifierText, hx, Option.getD_some] at htext
      rw [hx, htext]
    obtain ⟨d, hd, rfl⟩ := List.mem_map.mp hmem
    refine ⟨d, hd, ?_, h, hh, hname, hempty⟩
    exact (exists_identifier_eq_empty_iff (hnone d hd)).mp ⟨h, d.named.reached_subset hh, hempty⟩

/-- Nothing is left of the texts by which the label and the property are
called, but the empty name is reserved: an element without code has it for
its `fx:id`. -/
def reservedEmpty : Document where
  name := "Main"
  root := some <| .mk { kind := .declaration (some "com.example.Main"), name := "VBox" } [
    .mk { kind := .define, name := "define", fxId := some "" } [
      .leaf { kind := .declaration none, name := "Label", id := some "title." },
      .mk { kind := .declaration none, name := "Pane", fxId := some "pane." } [
        .leaf { kind := .property .instanceProperty, name := "" }]]]

theorem identifyAll_namesGiven_reservedEmpty :
    (∀ d ∈ [reservedEmpty], ∀ h ∈ d.heads, h.identifier = none)
      ∧ ¬ reservedEmpty.Unnameable
      ∧ ((identifyAll [reservedEmpty] {}).1.map fun d => d.heads.map Head.identifier)
        = [[some "vBox", none, some "1", some "pane.", some "2"]]
      ∧ NamesGiven [reservedEmpty] {} :=
  ⟨by decide, by decide +kernel, by decide +kernel, identifyAll_namesGiven _ {} (by decide)⟩

/-- A label with an empty id. -/
def emptyId : Document where
  name := "Main"
  root := some <| .mk { kind := .declaration (some "com.example.Main"), name := "VBox" } [
    .leaf { kind := .declaration none, name := "Label", id := some ""
            attributes := [⟨"id", "", .instanceProperty⟩] }]

/-- The label is given the empty name, and the document does not compile
for want of one. -/
theorem emptyId_missingIdentifier :
    (∀ h ∈ emptyId.heads, h.identifier = none)
      ∧ emptyId.Unnameable
      ∧ (emptyId.identify {}).1.heads.map Head.identifier = [some "vBox", some ""]
      ∧ (compileBatch {} Handler.methodRef [emptyId]
          (Sources.declare {} "com.example.Main")).2.result
        = .error (.missingIdentifier "Label") :=
  ⟨by decide, by decide +kernel, by decide +kernel, rfl⟩

end Document

end FxmlCodegen
