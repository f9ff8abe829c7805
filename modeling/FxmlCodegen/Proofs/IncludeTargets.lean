import FxmlCodegen.Proofs.CompileOutcome
import FxmlCodegen.Proofs.EmittedLines
import FxmlCodegen.Proofs.NamedDocument

/-!
# Include targets

Of the scope, code generation reads the active controller and the targets
of the includes it meets. These are the includes that are not below
another one: what is inside an include is never looked at, while what is
inside an element without code still is (`Element.reached`).

So two scopes with the same targets for those includes give the same code
or the same failure (`Document.body_congr`). Code generation fails as the
first element that is reached and cannot be given code
(`Element.failure?_emit`). So code comes out exactly where all that is
reached is fit for it: each of those includes has a target, and each
element that needs a name has one (`Document.body_ok_iff`).

The second half says where targets come from. Naming a document makes it
the target of its own key and touches no other
(`Document.identify_sameTargets`). After a batch is named, a key that has a
target is that of a document of the batch, namely of the last with that key
(`Document.identifyAll_offers_last`).
-/

namespace FxmlCodegen

/-! ## The includes that are met -/

/-- What an include names. -/
def Head.source? (h : Head) : Option String :=
  match h.kind with
  | .include source => some source
  | _ => none

theorem Head.source?_eq_some {h : Head} {source : String} :
    h.source? = some source ↔ h.kind = .include source := by
  unfold source?
  split <;> simp_all

theorem Head.source?_eq_none {h : Head} (hkind : ∀ source, h.kind ≠ .include source) :
    h.source? = none :=
  Option.eq_none_iff_forall_ne_some.mpr fun source hs => hkind source (source?_eq_some.mp hs)

namespace Element

/-- The heads code generation reaches, in document order. -/
def reached (e : Element) : List Head := e.preorderWhere fun h => h.source?.isNone

def reachedAll (es : List Element) : List Head := preorderAllWhere (fun h => h.source?.isNone) es

/-- The sources of the includes code generation reaches. -/
def includeSources (e : Element) : List String := e.reached.filterMap Head.source?

def includeSourcesAll (es : List Element) : List String := (reachedAll es).filterMap Head.source?

theorem includeSources_of_some {h : Head} {source : String} (hsource : h.source? = some source)
    (cs : List Element) : (mk h cs).includeSources = [source] := by
  simp [includeSources, reached, preorderWhere, hsource]

theorem includeSources_of_none {h : Head} (hsource : h.source? = none) (cs : List Element) :
    (mk h cs).includeSources = includeSourcesAll cs := by
  simp [includeSources, includeSourcesAll, reached, reachedAll, preorderWhere, hsource]

theorem includeSourcesAll_cons (e : Element) (es : List Element) :
    includeSourcesAll (e :: es) = e.includeSources ++ includeSourcesAll es := by
  simp [includeSources, includeSourcesAll, reached, reachedAll, preorderAllWhere]

mutual

theorem includeSources_unnamed : ∀ e : Element, e.unnamed.includeSources = e.includeSources
  | mk h cs => by
      rw [unnamed]
      cases hsource : h.source? with
      | none =>
          rw [includeSources_of_none (h := h.unnamed) hsource, includeSources_of_none hsource]
          exact includeSourcesAll_unnamedAll cs
      | some source =>
          rw [includeSources_of_some (h := h.unnamed) hsource, includeSources_of_some hsource]

theorem includeSourcesAll_unnamedAll :
    ∀ es : List Element, includeSourcesAll (unnamedAll es) = includeSourcesAll es
  | [] => rfl
  | e :: es => by
      rw [unnamedAll, includeSourcesAll_cons, includeSourcesAll_cons, includeSources_unnamed e,
        includeSourcesAll_unnamedAll es]

end

end Element

/-! ## Code depends on their targets -/

/-- The scopes agree on what these sources stand for. -/
def Scope.SameTargets (s s' : Scope) (sources : List String) : Prop :=
  ∀ source ∈ sources, s.controllers.get? source = s'.controllers.get? source
    ∧ s.factories.get? source = s'.factories.get? source

section Congr

variable (options : Options) (handler : Handler) {s s' : Scope}

theorem Attribute.emit_congr (hactive : s.active = s'.active) (owner : String) (a : Attribute) :
    a.emit ⟨options, handler, s⟩ owner = a.emit ⟨options, handler, s'⟩ owner := by
  simp only [Attribute.emit, Attribute.stream, Attribute.resolve, hactive]

theorem Emit.attributeCodes_congr (hactive : s.active = s'.active) (h : Head) (var : String) :
    Emit.attributeCodes ⟨options, handler, s⟩ h var
      = Emit.attributeCodes ⟨options, handler, s'⟩ h var := by
  simp only [Emit.attributeCodes, Attribute.emit_congr options handler hactive]

theorem Emit.objectCode_congr (hactive : s.active = s'.active) (place : Place) (h : Head)
    (var : String) (children : List Fragment) :
    Emit.objectCode ⟨options, handler, s⟩ place h var children
      = Emit.objectCode ⟨options, handler, s'⟩ place h var children := by
  have htrailer : Emit.trailer ⟨options, handler, s⟩ var place
      = Emit.trailer ⟨options, handler, s'⟩ var place := by
    cases place <;> rfl
  simp only [Emit.objectCode, Emit.construction, Emit.constructorArgs, Emit.attributeStmts,
    Emit.attributeCodes_congr options handler hactive, htrailer]

theorem Emit.includeCode_congr (hactive : s.active = s'.active) (h : Head) (var : String)
    (controller factory : Java.TypeName) :
    Emit.includeCode ⟨options, handler, s⟩ h var controller factory
      = Emit.includeCode ⟨options, handler, s'⟩ h var controller factory := by
  simp only [Emit.includeCode, Attribute.emit_congr options handler hactive]

mutual

theorem Element.emit_congr (hactive : s.active = s'.active) (place : Place) :
    ∀ e : Element, s.SameTargets s' e.includeSources →
      e.emit ⟨options, handler, s⟩ place = e.emit ⟨options, handler, s'⟩ place
  | .mk h cs, hsame => by
      -- Only an include asks for its own target; the other kinds ask for
      -- those of their children.
      have hchildren : h.source? = none → ∀ owner,
          Element.emitAll ⟨options, handler, s⟩ owner cs
            = Element.emitAll ⟨options, handler, s'⟩ owner cs := by
        intro hsource owner
        rw [Element.includeSources_of_none hsource] at hsame
        exact Element.emitAll_congr hactive owner cs hsame
      rw [Element.emit, Element.emit]
      split
      · rename_i controller hkind
        simp only [hchildren (by rw [Head.source?, hkind]), Emit.objectCode_congr options handler hactive]
      · rename_i source hkind
        obtain ⟨hc, hf⟩ := hsame source <| by
          simp [Element.includeSources_of_some (Head.source?_eq_some.mpr hkind)]
        simp only [Emit.includeTarget, hc, hf, Emit.includeCode_congr options handler hactive]
      · rename_i kind hkind
        simp only [hchildren (by rw [Head.source?, hkind])]
      · rename_i hinclude _
        simp only [hchildren (Head.source?_eq_none hinclude)]

theorem Element.emitAll_congr (hactive : s.active = s'.active) (owner : String) :
    ∀ es : List Element, s.SameTargets s' (Element.includeSourcesAll es) →
      Element.emitAll ⟨options, handler, s⟩ owner es
        = Element.emitAll ⟨options, handler, s'⟩ owner es
  | [], _ => by rw [Element.emitAll, Element.emitAll]
  | e :: es, hsame => by
      rw [Element.includeSourcesAll_cons] at hsame
      rw [Element.emitAll, Element.emitAll,
        Element.emit_congr hactive _ e fun k hk => hsame k (List.mem_append_left _ hk),
        Element.emitAll_congr hactive owner es fun k hk => hsame k (List.mem_append_right _ hk)]

end

end Congr

/-! ## What code needs -/

/-- In this scope the element can be given code: it has a name if it needs
one, which is not empty, and a target if it is an include. -/
structure Head.Fit (scope : Scope) (h : Head) : Prop where
  named : h.needsName = true → ∃ x, h.identifier = some x ∧ x ≠ ""
  targeted : ∀ source, h.source? = some source →
    ∃ controller factory, scope.controllers.get? source = some controller
      ∧ scope.factories.get? source = some factory

namespace Head

/-- What is wrong with an element that needs a name, if it has none or an
empty one. -/
def nameFault? (h : Head) : Option Failure :=
  if h.identifierText = "" then some (.missingIdentifier h.name) else none

/-- What keeps an element from being given code in this scope. An include
is asked for its target first, then for its name. -/
def fault? (scope : Scope) (h : Head) : Option Failure :=
  match h.kind with
  | .declaration _ | .property _ => h.nameFault?
  | .include source =>
    if (scope.controllers.get? source).isSome && (scope.factories.get? source).isSome then
      h.nameFault?
    else
      some (.unresolvedInclude source)
  | _ => none

theorem nameFault?_eq_none {h : Head} :
    h.nameFault? = none ↔ ∃ x, h.identifier = some x ∧ x ≠ "" := by
  unfold nameFault? identifierText
  cases h.identifier <;> simp

/-- Nothing keeps an element from being given code exactly if it is fit. -/
theorem fault?_eq_none {scope : Scope} {h : Head} : h.fault? scope = none ↔ h.Fit scope := by
  have hfit : h.Fit scope ↔ (h.needsName = true → h.nameFault? = none)
      ∧ ∀ source, h.source? = some source →
        (scope.controllers.get? source).isSome = true
          ∧ (scope.factories.get? source).isSome = true := by
    constructor
    · intro hfit
      refine ⟨fun hneeds => nameFault?_eq_none.mpr (hfit.named hneeds), fun source hs => ?_⟩
      obtain ⟨controller, factory, hc, hf⟩ := hfit.targeted source hs
      simp [hc, hf]
    · rintro ⟨hnamed, htargets⟩
      refine ⟨fun hneeds => nameFault?_eq_none.mp (hnamed hneeds), fun source hs => ?_⟩
      obtain ⟨controller, hc⟩ := Option.isSome_iff_exists.mp (htargets source hs).1
      obtain ⟨factory, hf⟩ := Option.isSome_iff_exists.mp (htargets source hs).2
      exact ⟨controller, factory, hc, hf⟩
  rw [hfit]
  cases hkind : h.kind with
  | «include» source =>
      simp only [fault?, needsName, isObject, source?, hkind]
      split <;> simp_all
  | _ => simp [fault?, needsName, isObject, isProperty, source?, hkind]

theorem failure?_requireIdentifier (h : Head) : failure? h.requireIdentifier = h.nameFault? := by
  unfold requireIdentifier nameFault? identifierText
  cases h.identifier with
  | none => rfl
  | some x =>
      by_cases hx : x = ""
      · simp [hx, failure?]
      · simp [hx, failure?]

end Head

theorem Emit.failure?_includeTarget (env : Env) (source : String) :
    failure? (Emit.includeTarget env source)
      = if (env.scope.controllers.get? source).isSome && (env.scope.factories.get? source).isSome
        then none else some (.unresolvedInclude source) := by
  unfold includeTarget
  cases env.scope.controllers.get? source <;> cases env.scope.factories.get? source <;> rfl

namespace Element

theorem reached_of_none {h : Head} (hsource : h.source? = none) (cs : List Element) :
    (mk h cs).reached = h :: reachedAll cs := by
  simp [reached, reachedAll, preorderWhere, hsource]

theorem reached_of_some {h : Head} {source : String} (hsource : h.source? = some source)
    (cs : List Element) : (mk h cs).reached = [h] := by
  simp [reached, preorderWhere, hsource]

theorem reachedAll_cons (e : Element) (es : List Element) :
    reachedAll (e :: es) = e.reached ++ reachedAll es := by
  rw [reachedAll, preorderAllWhere]
  rfl

mutual

/-- Giving an element code fails as the first element that it reaches and
that cannot be given code. -/
theorem failure?_emit (env : Env) (place : Place) :
    ∀ e : Element, failure? (e.emit env place) = e.reached.findSome? (Head.fault? env.scope)
  | mk h cs => by
      -- A declaration and a property ask for their own name, then for
      -- their children.
      have hparent : h.source? = none → h.fault? env.scope = h.nameFault? →
          ∀ code : String → List Fragment → Option Fragment,
            failure? (do
                let var ← h.requireIdentifier
                let children ← emitAll env var cs
                pure (code var children))
              = (mk h cs).reached.findSome? (Head.fault? env.scope) := by
        intro hsource hfault code
        rw [reached_of_none hsource, List.findSome?_cons, hfault,
          failure?_bind fun var => failure?_bind_pure.trans (failure?_emitAll env var cs),
          Head.failure?_requireIdentifier]
        cases h.nameFault? <;> rfl
      rw [emit]
      split
      · rename_i controller hkind
        exact hparent (by rw [Head.source?, hkind]) (by rw [Head.fault?, hkind]) _
      · rename_i source hkind
        rw [reached_of_some (Head.source?_eq_some.mpr hkind), List.findSome?_singleton, Head.fault?,
          hkind, failure?_bind fun target =>
            failure?_bind_pure.trans h.failure?_requireIdentifier,
          Emit.failure?_includeTarget]
        dsimp only
        split <;> rfl
      · rename_i kind hkind
        exact hparent (by rw [Head.source?, hkind]) (by rw [Head.fault?, hkind]) _
      · rename_i hdecl hinclude hproperty
        have hnone : h.fault? env.scope = none := by
          unfold Head.fault?
          split <;> simp_all
        rw [reached_of_none (Head.source?_eq_none hinclude), List.findSome?_cons, hnone,
          failure?_bind_pure, failure?_emitAll env _ cs]

theorem failure?_emitAll (env : Env) (owner : String) :
    ∀ es : List Element,
      failure? (emitAll env owner es) = (reachedAll es).findSome? (Head.fault? env.scope)
  | [] => by
      rw [emitAll]
      rfl
  | e :: es => by
      rw [emitAll, reachedAll_cons, List.findSome?_append, ← failure?_emit env (.inside owner) e]
      exact failure?_bind fun _ => failure?_bind_pure.trans (failure?_emitAll env owner es)

end

/-- An element can be given code exactly if all that code generation
reaches in it is fit for code. -/
theorem emit_ok_iff (env : Env) (place : Place) (e : Element) :
    (∃ fragment, e.emit env place = .ok fragment) ↔ ∀ h ∈ e.reached, h.Fit env.scope := by
  rw [← failure?_eq_none, failure?_emit, List.findSome?_eq_none_iff]
  simp only [Head.fault?_eq_none]

end Element

/-! ## Documents -/

namespace Document

/-- The sources of the includes code generation reaches. -/
def includeSources (d : Document) : List String :=
  match d.root with
  | some root => root.includeSources
  | none => []

theorem includeSources_named (d : Document) : d.named.includeSources = d.includeSources := by
  obtain ⟨name, root, instructions⟩ := d
  cases root with
  | none => rfl
  | some root =>
      show (root.identify "" root.fxIds).1.includeSources = root.includeSources
      rw [← Element.includeSources_unnamed, Element.unnamed_identify, Element.includeSources_unnamed]

theorem body_congr (options : Options) (handler : Handler) {s s' : Scope} {root : Element}
    (hsame : s.SameTargets s' root.includeSources) (controller : String) :
    body (.compiling options handler s controller) root
      = body (.compiling options handler s' controller) root := by
  have hactive : { s.clearNames with active := some controller }.active
      = { s'.clearNames with active := some controller }.active := rfl
  unfold body Env.compiling
  rw [root.emit_congr options handler hactive .root hsame]

theorem body_ok_iff (env : Env) (root : Element) :
    (∃ stmts, body env root = .ok stmts) ↔ ∀ h ∈ root.reached, h.Fit env.scope :=
  exists_bind_pure_eq_ok.trans (root.emit_ok_iff env .root)

theorem targets_of_body {env : Env} {root : Element} {stmts : List Java.Stmt}
    (hok : body env root = .ok stmts) :
    ∀ source ∈ root.includeSources,
      ∃ controller, env.scope.controllers.get? source = some controller := by
  intro source hsource
  obtain ⟨h, hmem, hs⟩ := List.mem_filterMap.mp hsource
  obtain ⟨controller, -, hc, -⟩ := ((body_ok_iff env root).mp ⟨stmts, hok⟩ h hmem).targeted source hs
  exact ⟨controller, hc⟩

end Document

/-! ## Where targets come from -/

/-- What a search from the end finds stands before elements that do not
match. -/
theorem exists_append_of_findRev? {α : Type} {p : α → Bool} {l : List α} {a : α}
    (hfound : l.findRev? p = some a) :
    p a = true ∧ ∃ before after, l = before ++ a :: after ∧ ∀ b ∈ after, p b = false := by
  rw [List.findRev?_eq_find?_reverse, List.find?_eq_some_iff_append] at hfound
  obtain ⟨hp, front, back, hrev, hfront⟩ := hfound
  refine ⟨hp, back.reverse, front.reverse, ?_, fun b hb => ?_⟩
  · rw [← List.reverse_reverse l, hrev]
    simp
  · simpa using hfront b (List.mem_reverse.mp hb)

/-- An include of the document finds its controller and its root type. -/
def Scope.Offers (s : Scope) (d : Document) : Prop :=
  ∃ root controller, d.rootObject? = some (root, some controller)
    ∧ s.controllers.get? d.includeKey = some controller
    ∧ s.factories.get? d.includeKey = some root.head.name

namespace Scope

variable {s s' : Scope}

theorem Offers.of_sameTargets {d : Document} (hs : s.Offers d)
    (hsame : s.SameTargets s' [d.includeKey]) : s'.Offers d := by
  obtain ⟨root, controller, hroot, hc, hf⟩ := hs
  obtain ⟨hc', hf'⟩ := hsame d.includeKey (List.mem_singleton_self _)
  exact ⟨root, controller, hroot, hc' ▸ hc, hf' ▸ hf⟩

/-- Scopes that offer the same documents agree on what they stand for. -/
theorem sameTargets_of_offers {sources : List String}
    (hoffers : ∀ source ∈ sources, ∃ d : Document, d.includeKey = source ∧ s.Offers d ∧ s'.Offers d) :
    s.SameTargets s' sources := by
  intro source hsource
  obtain ⟨d, rfl, ⟨root, controller, hroot, hc, hf⟩, ⟨_, _, hroot', hc', hf'⟩⟩ :=
    hoffers source hsource
  rw [hroot] at hroot'
  cases hroot'
  exact ⟨hc.trans hc'.symm, hf.trans hf'.symm⟩

theorem SameTargets.trans {s'' : Scope} {sources : List String} (hfirst : s.SameTargets s' sources)
    (hsecond : s'.SameTargets s'' sources) : s.SameTargets s'' sources := fun source hsource =>
  ⟨(hfirst source hsource).1.trans (hsecond source hsource).1,
    (hfirst source hsource).2.trans (hsecond source hsource).2⟩

end Scope

namespace Document

/-- Naming a document changes no target but that of its own key. -/
theorem identify_sameTargets (d : Document) (s : Scope) {sources : List String}
    (hkey : d.includeKey ∉ sources) : s.SameTargets (d.identify s).2 sources := by
  intro source hsource
  have hne : source ≠ d.includeKey := fun heq => hkey (heq ▸ hsource)
  rw [(d.identify_targets s).1, (d.identify_targets s).2]
  unfold register
  split
  · split
    · exact ⟨(Table.get?_put_ne _ hne _).symm, (Table.get?_put_ne _ hne _).symm⟩
    · exact ⟨rfl, (Table.get?_put_ne _ hne _).symm⟩
    · exact ⟨rfl, rfl⟩
  · exact ⟨rfl, rfl⟩

theorem identify_offers {d : Document} {root : Element} {controller : String}
    (hroot : d.rootObject? = some (root, some controller)) (s : Scope) :
    (d.identify s).2.Offers d := by
  obtain ⟨hd, hkind⟩ := rootObject?_eq_some hroot
  obtain ⟨h, cs⟩ := root
  have hregister : d.register s
      = (s.addController d.includeKey controller).addFactory d.includeKey h.name := by
    rw [register, hd]
    simp only [show h.kind = .declaration (some controller) from hkind]
  refine ⟨.mk h cs, controller, hroot, ?_, ?_⟩
  · rw [(d.identify_targets s).1, hregister]
    exact Table.get?_put_self _ _ _
  · rw [(d.identify_targets s).2, hregister]
    exact Table.get?_put_self _ _ _

theorem identifyAll_sameTargets {sources : List String} :
    ∀ {ds : List Document}, (∀ d ∈ ds, d.includeKey ∉ sources) → ∀ s : Scope,
      s.SameTargets (identifyAll ds s).2 sources
  | [], _, _ => fun _ _ => ⟨rfl, rfl⟩
  | d :: _, hkeys, s =>
      (d.identify_sameTargets s (hkeys d List.mem_cons_self)).trans
        (identifyAll_sameTargets (fun e he => hkeys e (List.mem_cons_of_mem d he)) (d.identify s).2)

theorem identifyAll_append (ds es : List Document) (s : Scope) :
    (identifyAll (ds ++ es) s).2 = (identifyAll es (identifyAll ds s).2).2 := by
  induction ds generalizing s with
  | nil => rfl
  | cons d ds ih => exact ih (d.identify s).2

/-- A document is offered if none of those named after it has its key. -/
theorem identifyAll_offers_last {before after : List Document} {d : Document}
    (hroot : d.Includable)
    (hlast : ∀ e ∈ after, e.includeKey ≠ d.includeKey) (s : Scope) :
    (identifyAll (before ++ d :: after) s).2.Offers d := by
  obtain ⟨root, controller, hroot⟩ := hroot
  rw [identifyAll_append]
  refine (identify_offers hroot _).of_sameTargets (identifyAll_sameTargets ?_ _)
  exact fun e he hkey => hlast e he (List.mem_singleton.mp hkey)

/-- Naming a batch whose keys differ offers all of its documents that can
be included. -/
theorem identifyAll_offers {ds : List Document} (hkeys : (ds.map includeKey).Nodup)
    (hroots : ∀ d ∈ ds, d.Includable)
    (s : Scope) : ∀ d ∈ ds, (identifyAll ds s).2.Offers d := by
  intro d hd
  obtain ⟨before, after, rfl⟩ := List.append_of_mem hd
  refine identifyAll_offers_last (hroots d hd) (fun e he heq => ?_) s
  rw [List.map_append, List.map_cons] at hkeys
  exact (List.nodup_cons.mp (List.nodup_append.mp hkeys).2.1).1 (heq ▸ List.mem_map_of_mem he)

/-- The document an include means: the last of the batch that has its
source as key. -/
def lastIncluded? (ds : List Document) (source : String) : Option Document :=
  ds.findRev? (·.includeKey == source)

theorem lastIncluded?_eq_some {ds : List Document} {source : String} {d : Document}
    (hd : lastIncluded? ds source = some d) : d ∈ ds ∧ d.includeKey = source
      ∧ ∃ before after, ds = before ++ d :: after ∧ ∀ e ∈ after, e.includeKey ≠ d.includeKey := by
  obtain ⟨hkey, before, after, rfl, hlast⟩ := exists_append_of_findRev? hd
  have hkey : d.includeKey = source := eq_of_beq hkey
  refine ⟨by simp, hkey, before, after, rfl, fun e he heq => ?_⟩
  have hne := hlast e he
  simp [heq, hkey] at hne

theorem exists_lastIncluded? {ds : List Document} {d : Document} (hd : d ∈ ds) :
    ∃ e, lastIncluded? ds d.includeKey = some e := by
  refine Option.isSome_iff_exists.mp ?_
  rw [lastIncluded?, List.findRev?_eq_find?_reverse, List.find?_isSome]
  exact ⟨d, List.mem_reverse.mpr hd, beq_self_eq_true _⟩

theorem lastIncluded?_offers {ds : List Document} {source : String} {d : Document}
    (hroots : ∀ d ∈ ds, d.Includable)
    (hd : lastIncluded? ds source = some d) (s : Scope) : (identifyAll ds s).2.Offers d := by
  obtain ⟨hmem, -, before, after, rfl, hafter⟩ := lastIncluded?_eq_some hd
  exact identifyAll_offers_last (hroots d hmem) hafter s

/-- After a batch is named, a key that has a target is the key of one of
its documents. -/
theorem exists_includeKey_of_target {ds : List Document} {source controller : String}
    (htarget : (identifyAll ds {}).2.controllers.get? source = some controller) :
    ∃ d ∈ ds, d.includeKey = source := by
  refine Classical.byContradiction fun hnone => ?_
  have hsame : Scope.SameTargets {} (identifyAll ds {}).2 [source] :=
    identifyAll_sameTargets (fun d hd hkey => hnone ⟨d, hd, List.mem_singleton.mp hkey⟩) {}
  rw [← (hsame source (List.mem_singleton_self _)).1] at htarget
  cases htarget

end Document

end FxmlCodegen
