import FxmlCodegen.Compile
import FxmlCodegen.Proofs.NamingPass

/-!
# The named document

The names of a document depend on nothing but the document: whatever the
scope held before, naming gives the same tree (`identify_fst`), and naming
that tree again changes nothing (`named_named`). To the scope, too, a
document is the same before and after it is named: it is the target of
the same key with the same controller and root type (`register_named`).

So a document can be named any number of times and between any others,
and so can a batch (`identifyAll_named_targets`).
-/

namespace FxmlCodegen

/-! ## Naming again -/

/-- A head that has the name it needs keeps it. -/
theorem Head.identify_eq_self {h : Head}
    (hhas : h.needsName = true → ∃ x, h.identifier = some x) (owner : String)
    (taken : List String) : h.identify owner taken = (h, taken) := by
  rcases h.identify_cases owner taken with ⟨heq, -⟩ | ⟨x, hnone, hx, -⟩ | ⟨seed, hnone, -, hneeds, -⟩
  · exact heq
  · obtain ⟨y, hy⟩ := hhas (needsName_of_ownFxId hx)
    rw [hnone] at hy
    cases hy
  · obtain ⟨y, hy⟩ := hhas hneeds
    rw [hnone] at hy
    cases hy

namespace Element

mutual

theorem identify_eq_self :
    ∀ {e : Element}, (∀ h ∈ e.preorder, h.needsName = true → ∃ x, h.identifier = some x) →
      ∀ (owner : String) (taken : List String), e.identify owner taken = (e, taken)
  | mk h cs, hhas, owner, taken => by
      simp only [preorder, preorderWhere, if_true] at hhas
      rw [identify, Head.identify_eq_self (hhas h List.mem_cons_self)]
      simp only
      rw [identifyAll_eq_self fun g hg => hhas g (List.mem_cons_of_mem h hg)]

theorem identifyAll_eq_self :
    ∀ {es : List Element},
      (∀ h ∈ preorderAllWhere (fun _ => true) es, h.needsName = true → ∃ x, h.identifier = some x) →
      ∀ (owner : String) (taken : List String), identifyAll owner es taken = (es, taken)
  | [], _, _, _ => rfl
  | e :: es, hhas, owner, taken => by
      rw [preorderAllWhere] at hhas
      rw [identifyAll, identify_eq_self fun g hg => hhas g (List.mem_append_left _ hg)]
      simp only
      rw [identifyAll_eq_self fun g hg => hhas g (List.mem_append_right _ hg)]

end

end Element

/-! ## The document and the scope -/

namespace Document

/-- The document with its names. -/
def named (d : Document) : Document := (d.identify {}).1

theorem identify_fst (d : Document) (s : Scope) : (d.identify s).1 = d.named := by
  obtain ⟨name, root, instructions⟩ := d
  cases root <;> rfl

theorem identifyAll_fst : ∀ (ds : List Document) (s : Scope), (identifyAll ds s).1 = ds.map named
  | [], _ => rfl
  | d :: ds, s => by
      simp only [identifyAll, List.map_cons]
      rw [identify_fst, identifyAll_fst ds]

theorem name_named (d : Document) : d.named.name = d.name := by
  obtain ⟨name, root, instructions⟩ := d
  cases root <;> rfl

theorem instructions_named (d : Document) : d.named.instructions = d.instructions := by
  obtain ⟨name, root, instructions⟩ := d
  cases root <;> rfl

theorem named_named (d : Document) : d.named.named = d.named := by
  obtain ⟨taken, pass⟩ := d.identify_pass {}
  have hhas : ∀ h ∈ d.named.heads, h.needsName = true → ∃ x, h.identifier = some x :=
    pass.exists_identifier
  generalize d.named = named at hhas
  obtain ⟨name, root, instructions⟩ := named
  cases root with
  | none => rfl
  | some root =>
      show Document.mk name (some (root.identify "" root.fxIds).1) instructions = _
      rw [Element.identify_eq_self hhas]

theorem map_named_named (ds : List Document) : (ds.map named).map named = ds.map named := by
  rw [List.map_map]
  exact List.map_congr_left fun d _ => d.named_named

theorem rootObject?_named (d : Document) :
    d.named.rootObject?
      = d.rootObject?.map fun root => ((root.1.identify "" root.1.fxIds).1, root.2) := by
  obtain ⟨name, root, instructions⟩ := d
  cases root with
  | none => rfl
  | some root =>
      have hkind := Element.head_kind_identify "" root root.fxIds
      simp only [named, identify, rootObject?, hkind]
      split <;> rfl

/-- Naming leaves the head of the root alone but for its name. -/
theorem register_named (d : Document) (s : Scope) : d.named.register s = d.register s := by
  obtain ⟨name, root, instructions⟩ := d
  cases root with
  | none => rfl
  | some root =>
      obtain ⟨h, cs⟩ := root
      simp only [named, identify, register, Element.identify, includeKey, Head.kind_identify,
        Head.name_identify]

theorem identify_targets (d : Document) (s : Scope) :
    (d.identify s).2.controllers = (d.register s).controllers
      ∧ (d.identify s).2.factories = (d.register s).factories := by
  obtain ⟨name, root, instructions⟩ := d
  cases root with
  | none => exact ⟨rfl, rfl⟩
  | some root =>
      obtain ⟨h, cs⟩ := root
      simp only [identify, register]
      split <;> exact ⟨rfl, rfl⟩

theorem register_congr (d : Document) {s s' : Scope} (hc : s.controllers = s'.controllers)
    (hf : s.factories = s'.factories) :
    (d.register s).controllers = (d.register s').controllers
      ∧ (d.register s).factories = (d.register s').factories := by
  unfold register
  split
  · split <;> simp only [Scope.addController, Scope.addFactory, hc, hf, and_self]
  · exact ⟨hc, hf⟩

/-- Naming a batch again gives the same include targets. -/
theorem identifyAll_named_targets :
    ∀ (ds : List Document) {s s' : Scope}, s.controllers = s'.controllers →
      s.factories = s'.factories →
      (identifyAll (ds.map named) s).2.controllers = (identifyAll ds s').2.controllers
        ∧ (identifyAll (ds.map named) s).2.factories = (identifyAll ds s').2.factories
  | [], _, _, hc, hf => ⟨hc, hf⟩
  | d :: ds, s, s', hc, hf => by
      obtain ⟨hregister, hregister'⟩ := d.register_congr hc hf
      have hc' : (d.named.identify s).2.controllers = (d.identify s').2.controllers := by
        rw [(d.named.identify_targets s).1, (d.identify_targets s').1, d.register_named, hregister]
      have hf' : (d.named.identify s).2.factories = (d.identify s').2.factories := by
        rw [(d.named.identify_targets s).2, (d.identify_targets s').2, d.register_named, hregister']
      exact identifyAll_named_targets ds hc' hf'

end Document

end FxmlCodegen
