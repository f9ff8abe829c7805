import FxmlCodegen.Naming.Identify
import FxmlCodegen.Proofs.FreshNames

/-!
# Naming as one pass over the heads

`Element.identify` walks a tree and threads the list of taken names. For
the facts about names the shape of the tree does not matter: the walk is
one pass over the heads in document order (`NamingPass`), each head named
by some owner. `Element.identify_pass` gives the pass, and everything
about names is then an induction over it, with `Head.identify_forms` as
the only look at what happens to a single head:

- heads change in nothing but their identifier (`NamingPass.map_unnamed`);
- every element that needs a variable has one (`NamingPass.exists_identifier`);
- an object with an `fx:id` is named by it (`NamingPass.identifier_of_fxId`);
- the other names are taken one after the other, each free until then
  (`NamingPass.made_spec`).
-/

namespace FxmlCodegen

/-! ## Heads -/

namespace Head

/-- The element stands for an object of its own: a declaration or an
include. -/
def isObject (h : Head) : Bool :=
  match h.kind with
  | .declaration _ | .include _ => true
  | _ => false

def isProperty (h : Head) : Bool :=
  match h.kind with
  | .property _ => true
  | _ => false

/-- The element needs a variable: it is an object or a property. -/
def needsName (h : Head) : Bool := h.isObject || h.isProperty

/-- The `fx:id` that names the variable of the element. On a property or
an element without code an `fx:id` names nothing. -/
def ownFxId? (h : Head) : Option String := if h.isObject then h.fxId else none

/-- The name that was made up for the element. -/
def madeName? (h : Head) : Option String :=
  match h.ownFxId? with
  | some _ => none
  | none => h.identifier

/-- The head as it was before it was named. -/
def unnamed (h : Head) : Head := { h with identifier := none }

theorem ownFxId?_setIdentifier (h : Head) (x : Option String) :
    { h with identifier := x }.ownFxId? = h.ownFxId? := rfl

theorem unnamed_eq_self {h : Head} (hnone : h.identifier = none) : h.unnamed = h := by
  rw [unnamed, ← hnone]

theorem needsName_of_ownFxId {h : Head} {x : String} (hx : h.ownFxId? = some x) :
    h.needsName = true := by
  unfold ownFxId? at hx
  split at hx
  · rename_i hobj
    simp [needsName, hobj]
  · cases hx

/-- The seed of a name that is made up for the element. -/
def seed (owner : String) (h : Head) : String :=
  match h.kind with
  | .property _ => h.propertySeed owner
  | _ => h.declarationSeed

/-- All that naming can do to a head: leave it, because it has a name or
needs none; name it by its own `fx:id`; or give it a fresh name, which is
taken from then on. Which of these does not depend on the taken names. -/
theorem identify_forms (owner : String) (h : Head) :
    ((∀ taken, h.identify owner taken = (h, taken))
      ∧ (h.needsName = true → ∃ x, h.identifier = some x))
    ∨ (∃ x, h.identifier = none ∧ h.ownFxId? = some x
      ∧ ∀ taken, h.identify owner taken = ({ h with identifier := some x }, taken))
    ∨ (h.identifier = none ∧ h.ownFxId? = none ∧ h.needsName = true
      ∧ ∀ taken, h.identify owner taken = h.identifyFresh (h.seed owner) taken) := by
  obtain ⟨kind, name, fxId, id, identifier, attributes⟩ := h
  cases identifier with
  | some x => exact Or.inl ⟨fun _ => rfl, fun _ => ⟨x, rfl⟩⟩
  | none =>
      cases kind with
      | declaration _ | «include» _ =>
          cases fxId with
          | some x => exact Or.inr (Or.inl ⟨x, rfl, rfl, fun _ => rfl⟩)
          | none => exact Or.inr (Or.inr ⟨rfl, rfl, rfl, fun _ => rfl⟩)
      | property kind => exact Or.inr (Or.inr ⟨rfl, rfl, rfl, fun _ => rfl⟩)
      | _ => exact Or.inl ⟨fun _ => rfl, fun hneeds => by cases hneeds⟩

/-- The same with given names taken, whatever the seed. -/
theorem identify_cases (owner : String) (h : Head) (taken : List String) :
    (h.identify owner taken = (h, taken)
      ∧ (h.needsName = true → ∃ x, h.identifier = some x))
    ∨ (∃ x, h.identifier = none ∧ h.ownFxId? = some x
      ∧ h.identify owner taken = ({ h with identifier := some x }, taken))
    ∨ (∃ seed, h.identifier = none ∧ h.ownFxId? = none ∧ h.needsName = true
      ∧ h.identify owner taken
        = ({ h with identifier := some (freshName taken seed) },
            freshName taken seed :: taken)) := by
  rcases h.identify_forms owner with ⟨heq, hhas⟩ | ⟨x, hnone, hx, heq⟩ | ⟨hnone, hfx, hneeds, heq⟩
  · exact Or.inl ⟨heq taken, hhas⟩
  · exact Or.inr (Or.inl ⟨x, hnone, hx, heq taken⟩)
  · exact Or.inr (Or.inr ⟨h.seed owner, hnone, hfx, hneeds, heq taken⟩)

theorem unnamed_identify (owner : String) (h : Head) (taken : List String) :
    (h.identify owner taken).1.unnamed = h.unnamed := by
  rcases h.identify_cases owner taken with ⟨heq, -⟩ | ⟨x, -, -, heq⟩ | ⟨seed, -, -, -, heq⟩
    <;> rw [heq] <;> rfl

theorem kind_identify (owner : String) (h : Head) (taken : List String) :
    (h.identify owner taken).1.kind = h.kind := by
  show (h.identify owner taken).1.unnamed.kind = h.unnamed.kind
  rw [unnamed_identify]

theorem name_identify (owner : String) (h : Head) (taken : List String) :
    (h.identify owner taken).1.name = h.name := by
  show (h.identify owner taken).1.unnamed.name = h.unnamed.name
  rw [unnamed_identify]

end Head

/-! ## The tree without its names -/

namespace Element

mutual

/-- The tree as it was before it was named. -/
def unnamed : Element → Element
  | mk h cs => mk h.unnamed (unnamedAll cs)

def unnamedAll : List Element → List Element
  | [] => []
  | e :: es => e.unnamed :: unnamedAll es

end

mutual

/-- Naming keeps the tree and changes names only. -/
theorem unnamed_identify (owner : String) :
    ∀ (e : Element) (taken : List String), (e.identify owner taken).1.unnamed = e.unnamed
  | mk h cs, taken => by
      simp only [identify, unnamed, Head.unnamed_identify]
      rw [unnamedAll_identifyAll _ cs _]

theorem unnamedAll_identifyAll (owner : String) :
    ∀ (es : List Element) (taken : List String),
      unnamedAll (identifyAll owner es taken).1 = unnamedAll es
  | [], _ => rfl
  | e :: es, taken => by
      simp only [identifyAll, unnamedAll]
      rw [unnamed_identify owner e taken, unnamedAll_identifyAll owner es _]

end

theorem head_kind_identify (owner : String) :
    ∀ (e : Element) (taken : List String), (e.identify owner taken).1.head.kind = e.head.kind
  | mk h _, taken => h.kind_identify owner taken

theorem head_name_identify (owner : String) :
    ∀ (e : Element) (taken : List String), (e.identify owner taken).1.head.name = e.head.name
  | mk h _, taken => h.name_identify owner taken

end Element

theorem Document.exists_root_of_identify {d : Document} {s : Scope} {named : Element}
    (hnamed : (d.identify s).1.root = some named) :
    ∃ root, d.root = some root ∧ (root.identify "" root.fxIds).1 = named := by
  obtain ⟨name, root, instructions⟩ := d
  cases root with
  | none => cases hnamed
  | some root => exact ⟨root, rfl, Option.some.inj hnamed⟩

/-! ## The pass -/

/-- Naming the heads `hs` in order, each with some owner, starting with
the names `taken`, gives `hs'` and leaves `taken'`. -/
inductive NamingPass : (hs : List Head) → (taken : List String) → (hs' : List Head) →
    (taken' : List String) → Prop
  | nil (taken : List String) : NamingPass [] taken [] taken
  | cons {h : Head} {hs hs' : List Head} {taken taken' : List String} (owner : String)
      (rest : NamingPass hs (h.identify owner taken).2 hs' taken') :
      NamingPass (h :: hs) taken ((h.identify owner taken).1 :: hs') taken'

theorem NamingPass.append {hs hs' gs gs' : List Head} {t t' t'' : List String}
    (first : NamingPass hs t hs' t') (second : NamingPass gs t' gs' t'') :
    NamingPass (hs ++ gs) t (hs' ++ gs') t'' := by
  induction first with
  | nil => exact second
  | cons owner _ ih => exact NamingPass.cons owner (ih second)

mutual

/-- Naming a tree is a pass over its heads in document order. -/
theorem Element.identify_pass (owner : String) :
    ∀ (e : Element) (taken : List String),
      NamingPass e.preorder taken (e.identify owner taken).1.preorder
        (e.identify owner taken).2
  | .mk h cs, taken => by
      simp only [Element.identify, Element.preorder, Element.preorderWhere, if_true]
      exact NamingPass.cons owner (Element.identifyAll_pass _ cs _)

theorem Element.identifyAll_pass (owner : String) :
    ∀ (es : List Element) (taken : List String),
      NamingPass (Element.preorderAllWhere (fun _ => true) es) taken
        (Element.preorderAllWhere (fun _ => true) (Element.identifyAll owner es taken).1)
        (Element.identifyAll owner es taken).2
  | [], taken => NamingPass.nil taken
  | e :: es, taken => by
      simp only [Element.identifyAll, Element.preorderAllWhere]
      exact (Element.identify_pass owner e taken).append (Element.identifyAll_pass owner es _)

end

/-- Naming a document is a pass over its heads that starts with the
`fx:id`s of all of them taken, whatever the scope held before. -/
theorem Document.identify_pass (d : Document) (s : Scope) :
    ∃ taken, NamingPass d.heads (d.heads.filterMap (·.fxId)) (d.identify s).1.heads taken := by
  obtain ⟨name, root, instructions⟩ := d
  cases root with
  | none => exact ⟨[], NamingPass.nil []⟩
  | some root => exact ⟨_, root.identify_pass "" root.fxIds⟩

/-! ## What the pass does -/

namespace NamingPass

variable {hs hs' : List Head} {taken taken' : List String}

/-- Nothing but identifiers changes. -/
theorem map_unnamed (pass : NamingPass hs taken hs' taken') :
    hs'.map Head.unnamed = hs.map Head.unnamed := by
  induction pass with
  | nil => rfl
  | cons owner _ ih => rw [List.map_cons, List.map_cons, ih, Head.unnamed_identify]

theorem exists_identifier (pass : NamingPass hs taken hs' taken') :
    ∀ h ∈ hs', h.needsName = true → ∃ x, h.identifier = some x := by
  induction pass with
  | nil => exact fun h hmem => (List.not_mem_nil hmem).elim
  | @cons h _ _ taken _ owner _ ih =>
      intro g hg hneeds
      rcases List.mem_cons.mp hg with rfl | hg
      · rcases h.identify_cases owner taken with ⟨heq, hhas⟩ | ⟨x, -, -, heq⟩ | ⟨seed, -, -, -, heq⟩
        · rw [heq] at hneeds ⊢
          exact hhas hneeds
        · exact ⟨x, by rw [heq]⟩
        · exact ⟨freshName taken seed, by rw [heq]⟩
      · exact ih g hg hneeds

/-- Of heads that had no name, only those that need one are given one. -/
theorem needsName_of_identifier (pass : NamingPass hs taken hs' taken')
    (hnone : ∀ h ∈ hs, h.identifier = none) :
    ∀ h ∈ hs', ∀ x, h.identifier = some x → h.needsName = true := by
  induction pass with
  | nil => exact fun h hmem => (List.not_mem_nil hmem).elim
  | @cons h _ _ taken _ owner _ ih =>
      intro g hg x hx
      rcases List.mem_cons.mp hg with rfl | hg
      · rcases h.identify_cases owner taken with ⟨heq, -⟩ | ⟨y, -, hy, heq⟩ | ⟨seed, -, -, hneeds, heq⟩
        · rw [heq, hnone h List.mem_cons_self] at hx
          cases hx
        · rw [heq]
          exact Head.needsName_of_ownFxId hy
        · rw [heq]
          exact hneeds
      · exact ih (fun g hg => hnone g (List.mem_cons_of_mem _ hg)) g hg x hx

/-- Of heads that had no name, an object with an `fx:id` is named by
it. -/
theorem identifier_of_fxId (pass : NamingPass hs taken hs' taken')
    (hnone : ∀ h ∈ hs, h.identifier = none) :
    ∀ h ∈ hs', ∀ x, h.ownFxId? = some x → h.identifier = some x := by
  induction pass with
  | nil => exact fun h hmem => (List.not_mem_nil hmem).elim
  | @cons h _ _ taken _ owner _ ih =>
      intro g hg y hy
      rcases List.mem_cons.mp hg with rfl | hg
      · rcases h.identify_cases owner taken with ⟨heq, hhas⟩ | ⟨x, -, hx, heq⟩ | ⟨seed, -, hfx, -, heq⟩
        · rw [heq] at hy
          obtain ⟨z, hz⟩ := hhas (Head.needsName_of_ownFxId hy)
          rw [hnone h List.mem_cons_self] at hz
          cases hz
        · rw [heq] at hy ⊢
          rw [Head.ownFxId?_setIdentifier, hx] at hy
          exact hy
        · rw [heq, Head.ownFxId?_setIdentifier, hfx] at hy
          cases hy
      · exact ih (fun g hg => hnone g (List.mem_cons_of_mem _ hg)) g hg y hy

/-- Of heads that had no name, those with a made name hold names that
were free before the pass and differ from each other, and those are the
names taken by it. -/
theorem made_spec (pass : NamingPass hs taken hs' taken')
    (hnone : ∀ h ∈ hs, h.identifier = none) :
    taken' = (hs'.filterMap Head.madeName?).reverse ++ taken
      ∧ (hs'.filterMap Head.madeName?).Nodup
      ∧ ∀ x ∈ hs'.filterMap Head.madeName?, x ∉ taken := by
  induction pass with
  | nil => exact ⟨rfl, List.nodup_nil, fun x hx => (List.not_mem_nil hx).elim⟩
  | @cons h _ hs' taken _ owner _ ih =>
      obtain ⟨htaken, hnodup, hfree⟩ := ih fun g hg => hnone g (List.mem_cons_of_mem _ hg)
      have hh : h.identifier = none := hnone h List.mem_cons_self
      rcases h.identify_cases owner taken with ⟨heq, -⟩ | ⟨x, -, hx, heq⟩ | ⟨seed, -, hfx, -, heq⟩
      · have hmade : h.madeName? = none := by
          unfold Head.madeName?
          split
          · rfl
          · exact hh
        rw [heq] at htaken hfree ⊢
        rw [List.filterMap_cons_none hmade]
        exact ⟨htaken, hnodup, hfree⟩
      · have hmade : { h with identifier := some x }.madeName? = none := by
          rw [Head.madeName?, Head.ownFxId?_setIdentifier, hx]
        rw [heq] at htaken hfree ⊢
        rw [List.filterMap_cons_none hmade]
        exact ⟨htaken, hnodup, hfree⟩
      · have hmade : { h with identifier := some (freshName taken seed) }.madeName?
            = some (freshName taken seed) := by
          rw [Head.madeName?, Head.ownFxId?_setIdentifier, hfx]
        rw [heq] at htaken hfree ⊢
        rw [List.filterMap_cons_some hmade]
        refine ⟨?_, List.nodup_cons.mpr ⟨fun hin => ?_, hnodup⟩, fun y hy => ?_⟩
        · rw [htaken, List.reverse_cons, List.append_assoc]
          rfl
        · exact hfree _ hin List.mem_cons_self
        · rcases List.mem_cons.mp hy with rfl | hy
          · exact freshName_not_mem taken seed
          · exact fun hin => hfree y hy (List.mem_cons_of_mem _ hin)

end NamingPass

end FxmlCodegen
