import FxmlCodegen.Proofs.NamedDocument

/-!
# A document by itself and in a batch

Naming a batch can be told as one walk over all its documents, with one
scope and one stack of the objects around the element just met
(`Walk`, `Document.walkAll`). The walk gives what `Document.identifyAll`
gives: at each element the top of the stack is the owner that `identify`
is handed down, and behind the element the stack is what it was in front
of it (`Element.walk_eq`). So it is empty behind every document, and
nothing a document leaves in the scope shows in the names of a later one:
each document is named as it would be alone.

The same holds for compiling. A text compiled by itself and the batch of
the one document it spells give the same method or the same failure, and
leave the same source files.
-/

namespace FxmlCodegen

open Java (Method Sources)

/-! ## The walk -/

/-- How far a walk over documents has come: its scope, and the variables
of the objects around it, innermost first. -/
structure Walk where
  scope : Scope
  around : List String := []
  deriving DecidableEq

namespace Walk

/-- The variable of the nearest object around, empty outside of all. -/
def owner (w : Walk) : String := w.around.headD ""

def enter (w : Walk) (var : String) : Walk := { w with around := var :: w.around }

def leave (w : Walk) : Walk := { w with around := w.around.tail }

def setTaken (w : Walk) (taken : List String) : Walk := { w with scope := { w.scope with taken } }

end Walk

namespace Element

mutual

/-- Names an element and what is inside. An object is on the stack while
the walk is inside it. -/
def walk : Element → Walk → Element × Walk
  | mk h cs, w =>
    let (h', taken) := h.identify w.owner w.scope.taken
    let w := w.setTaken taken
    match h.kind with
    | .declaration _ =>
      let (cs', w) := walkAll cs (w.enter h'.identifierText)
      (mk h' cs', w.leave)
    | _ =>
      let (cs', w) := walkAll cs w
      (mk h' cs', w)

def walkAll : List Element → Walk → List Element × Walk
  | [], w => ([], w)
  | e :: es, w =>
    let (e', w) := e.walk w
    let (es', w) := walkAll es w
    (e' :: es', w)

end

end Element

namespace Document

/-- Names a document after others. The names they have taken are cleared,
and so is the stack. -/
def walk (d : Document) (w : Walk) : Document × Walk :=
  let scope := d.register w.scope.clearNames
  match d.root with
  | none => (d, ⟨scope, []⟩)
  | some root =>
    let (root, w) := root.walk ⟨{ scope with taken := root.fxIds }, []⟩
    ({ d with root := some root }, w)

def walkAll : List Document → Walk → List Document × Walk
  | [], w => ([], w)
  | d :: ds, w =>
    let (d, w) := d.walk w
    let (ds, w) := walkAll ds w
    (d :: ds, w)

end Document

/-! ## The stack behind an element -/

theorem Head.ownerBelow_of_declaration {h : Head} {controller : Option String}
    (hkind : h.kind = .declaration controller) (owner : String) :
    h.ownerBelow owner = h.identifierText := by
  rw [ownerBelow, hkind]

theorem Head.ownerBelow_of_ne {h : Head} (hkind : ∀ controller, h.kind ≠ .declaration controller)
    (owner : String) : h.ownerBelow owner = owner := by
  unfold ownerBelow
  split
  · rename_i controller hdecl
    exact (hkind controller hdecl).elim
  · rfl

namespace Element

mutual

/-- Walking through an element names it for the owner on top of the stack,
and leaves the stack as it was. -/
theorem walk_eq : ∀ (e : Element) (w : Walk),
    e.walk w = ((e.identify w.owner w.scope.taken).1,
      w.setTaken (e.identify w.owner w.scope.taken).2)
  | mk h cs, w => by
      have hkind' := h.kind_identify w.owner w.scope.taken
      simp only [walk, identify]
      split
      · rename_i controller hkind
        rw [Head.ownerBelow_of_declaration (hkind'.trans hkind), walkAll_eq cs]
        rfl
      · rename_i hkind
        rw [Head.ownerBelow_of_ne fun c hdecl => hkind c (hkind'.symm.trans hdecl), walkAll_eq cs]
        rfl

theorem walkAll_eq : ∀ (es : List Element) (w : Walk),
    walkAll es w = ((identifyAll w.owner es w.scope.taken).1,
      w.setTaken (identifyAll w.owner es w.scope.taken).2)
  | [], _ => rfl
  | e :: es, w => by
      simp only [walkAll, identifyAll]
      rw [walk_eq e w, walkAll_eq es]
      rfl

end

end Element

namespace Document

/-- A document is named as from the scope alone, and the stack behind it
is empty. -/
theorem walk_eq (d : Document) (w : Walk) :
    d.walk w = ((d.identify w.scope).1, ⟨(d.identify w.scope).2, []⟩) := by
  obtain ⟨name, root, instructions⟩ := d
  cases root with
  | none => rfl
  | some root =>
      simp only [walk, identify]
      rw [Element.walk_eq]
      rfl

theorem walkAll_eq : ∀ (ds : List Document) (w : Walk),
    (walkAll ds w).1 = (identifyAll ds w.scope).1
      ∧ (walkAll ds w).2.scope = (identifyAll ds w.scope).2
  | [], _ => ⟨rfl, rfl⟩
  | d :: ds, w => by
      obtain ⟨hdocuments, hscope⟩ := walkAll_eq ds ⟨(d.identify w.scope).2, []⟩
      simp only [walkAll, identifyAll, walk_eq]
      exact ⟨by rw [hdocuments], hscope⟩

theorem around_walkAll : ∀ {ds : List Document}, ds ≠ [] →
    ∀ w : Walk, (walkAll ds w).2.around = []
  | [], hne, _ => (hne rfl).elim
  | [d], _, w => by
      simp only [walkAll, walk_eq]
  | d :: e :: ds, _, w => by
      rw [walkAll]
      exact around_walkAll (List.cons_ne_nil e ds) (d.walk w).2

/-! ## Batches and single documents -/

/-- The walk over the documents, from wherever it starts, names each of
them as it is named alone in a new scope, and has an empty stack behind
it. -/
structure NamedAlone (ds : List Document) (w : Walk) : Prop where
  documents : (walkAll ds w).1 = (identifyAll ds w.scope).1
  scope : (walkAll ds w).2.scope = (identifyAll ds w.scope).2
  alone : ∀ (i : Nat) (d : Document), ds[i]? = some d →
    (identifyAll ds w.scope).1[i]? = some (d.identify {}).1
  emptied : ∀ i < ds.length, (walkAll (ds.take (i + 1)) w).2.around = []

/-- Compiling the text that spells the document, and compiling the
document as a batch, end alike. -/
structure CompiledAlike (options : Options) (handler : Handler) (name source : String)
    (d : Document) (sources : Sources) : Prop where
  ok : ∀ method, (compileSource options handler name source sources).1 = .ok method
    ↔ (compileBatch options handler [d] sources).2.result = .ok [method]
  error : ∀ failure, (compileSource options handler name source sources).1 = .error failure
    ↔ (compileBatch options handler [d] sources).2.result = .error failure
  sources : (compileSource options handler name source sources).2
    = (compileBatch options handler [d] sources).2.sources

theorem namedAlone (ds : List Document) (w : Walk) : NamedAlone ds w where
  documents := (walkAll_eq ds w).1
  scope := (walkAll_eq ds w).2
  alone i d hd := by
    rw [identifyAll_fst, List.getElem?_map, hd]
    rfl
  emptied i hi := by
    have hsome : ds.take (i + 1) ≠ [] := by
      rw [Ne, List.take_eq_nil_iff]
      rintro (hzero | rfl)
      · exact Nat.succ_ne_zero i hzero
      · exact Nat.not_lt_zero i hi
    exact around_walkAll hsome w

/-- A batch of one document has one result. -/
theorem compileAll_singleton (options : Options) (handler : Handler) (d : Document) (scope : Scope)
    (sources : Sources) :
    (compileAll options handler [d] scope sources).result
        = (d.compile options handler scope sources).result.map ([·])
      ∧ (compileAll options handler [d] scope sources).sources
        = (d.compile options handler scope sources).sources := by
  simp only [compileAll]
  cases (d.compile options handler scope sources).result <;> exact ⟨rfl, rfl⟩

theorem compiledAlike (options : Options) (handler : Handler) {name source : String} {d : Document}
    (hread : read name source = .ok d) (sources : Sources) :
    CompiledAlike options handler name source d sources := by
  have hsource : compileSource options handler name source sources
      = ((d.named.compile options handler (d.identify {}).2 sources).result,
        (d.named.compile options handler (d.identify {}).2 sources).sources) := by
    rw [compileSource, hread]
    rfl
  have hbatch : (compileBatch options handler [d] sources).2
      = compileAll options handler [d.named] (d.identify {}).2 sources := rfl
  obtain ⟨hresult, hfiles⟩ :=
    compileAll_singleton options handler d.named (d.identify {}).2 sources
  rw [← hbatch] at hresult hfiles
  refine ⟨fun method => ?_, fun failure => ?_, ?_⟩
  · rw [hsource, hresult]
    cases (d.named.compile options handler (d.identify {}).2 sources).result with
    | error failure => simp [Except.map]
    | ok made => simp [Except.map]
  · rw [hsource, hresult]
    cases (d.named.compile options handler (d.identify {}).2 sources).result with
    | error failure' => simp [Except.map]
    | ok made => simp [Except.map]
  · rw [hsource, hfiles]

/-- In a batch each document is named as alone, whatever came before it;
and a text is compiled by itself as the batch of its document is. -/
theorem batch_eq_alone (options : Options) (handler : Handler) (ds : List Document) (w : Walk) :
    NamedAlone ds w
      ∧ ∀ (name source : String) (d : Document), read name source = .ok d →
        ∀ sources, CompiledAlike options handler name source d sources :=
  ⟨namedAlone ds w, fun _ _ _ hread sources => compiledAlike options handler hread sources⟩

/-- A walk that comes from other documents: names are taken, and it has
not left the objects it was in. -/
def interruptedWalk : Walk where
  scope := { taken := ["vBox", "pane"], active := some "com.example.Other" }
  around := ["pane", "root"]

/-- A view with a property below its root and an include of itself. -/
def selfView : String :=
  "<VBox fx:controller='com.example.Main'><children>"
    ++ "<fx:include source='Main.fxml'/></children></VBox>"

theorem batch_eq_alone_selfView :
    ∃ d, read "Main" selfView = .ok d
      ∧ ((walkAll [d, d] interruptedWalk).1.map fun d => d.heads.map Head.identifierText)
        = [["vBox", "vBoxChildren", "include"], ["vBox", "vBoxChildren", "include"]]
      ∧ (compileSource {} Handler.methodRef "Main" selfView
          (Sources.declare {} "com.example.Main")).1.isOk = true
      ∧ NamedAlone [d, d] interruptedWalk
      ∧ CompiledAlike {} Handler.methodRef "Main" selfView d
          (Sources.declare {} "com.example.Main") := by
  have hview : ((read "Main" selfView).toOption.map fun d =>
      (walkAll [d, d] interruptedWalk).1.map fun d => d.heads.map Head.identifierText)
      = some [["vBox", "vBoxChildren", "include"], ["vBox", "vBoxChildren", "include"]] := by
    decide +kernel
  have hok : (compileSource {} Handler.methodRef "Main" selfView
      (Sources.declare {} "com.example.Main")).1.isOk = true := by decide +kernel
  cases hread : read "Main" selfView with
  | error failure =>
      rw [hread] at hview
      cases hview
  | ok d =>
      rw [hread] at hview
      obtain ⟨hnamed, halike⟩ := batch_eq_alone {} Handler.methodRef [d, d] interruptedWalk
      exact ⟨d, rfl, Option.some.inj hview, hok, hnamed, halike "Main" selfView d hread _⟩

end Document

end FxmlCodegen
