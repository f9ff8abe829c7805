import FxmlCodegen.Java.Printer
import FxmlCodegen.Proofs.IncludeStatements

/-!
# Variables of the controller that a method hides

Generated code reads two variables that it does not declare, the resource
bundle and the facade, by the names that the options give them
(`Options.outerNames`). Naming does not know the options, so an element
can get a variable of such a name, and behind its declaration the code
reads the wrong one: `bundleElement` is a view where that happens.

The variables a method declares are those of the elements it constructs
(`Document.Makes.locals_eq`). In a document that had no names an element
comes by a variable in two ways: it is an include with that `fx:id`, or it
has no `fx:id` and the variable is its base name, perhaps with a number
behind it, and not an `fx:id` of another element
(`Document.mayDeclare_of_mem_locals`). `Document.compileBatch_hides_iff`
puts the two together: when the methods of a batch hide nothing, and what
in the documents can make them.
-/

namespace FxmlCodegen

open Java (Line Method Sources Stmt)

/-- The variables of the controller that generated code reads. -/
def Options.outerNames (options : Options) : List String := [options.bundle, options.modelFacade]

/-! ## The variables of a method -/

def Java.Stmt.declared? : Stmt → Option String
  | .declare _ var _ => some var
  | _ => none

/-- The variables declared in the method, in order. -/
def Java.Method.locals (m : Method) : List String := m.body.filterMap Stmt.declared?

theorem Java.Stmt.filterMap_declared?_filter (stmts : List Stmt) :
    (stmts.filter Stmt.isDeclaration).filterMap Stmt.declared?
      = stmts.filterMap Stmt.declared? := by
  rw [List.filterMap_filter]
  refine List.filterMap_congr fun stmt _ => ?_
  cases stmt <;> rfl

theorem Head.declared?_declaration (env : Env) (h : Head) :
    (h.declaration env).declared? = some h.identifierText := by
  unfold declaration
  split <;> rfl

namespace Document

variable {options : Options} {handler : Handler} {ds : List Document} {sources : Sources}
  {methods : List Method}

/-- The variables the method of a document declares. -/
def locals (d : Document) : List String := d.named.declaring.map Head.identifierText

theorem Makes.locals_eq {d : Document} {scope : Scope} {method : Method}
    (hmakes : d.Makes options handler scope method) :
    method.locals = d.declaring.map Head.identifierText := by
  obtain ⟨root, controller, stmts, hroot, hbody, rfl⟩ := hmakes
  obtain ⟨hd, hkind⟩ := rootObject?_eq_some hroot
  have hlines := body_eq_lines (by rw [Head.isObject, hkind]) hbody
  show stmts.filterMap Stmt.declared? = _
  rw [← Stmt.filterMap_declared?_filter, declaring, hd, hlines,
    Element.filter_isDeclaration_lines, List.filterMap_map]
  simp only [Function.comp_def, Head.declared?_declaration]
  exact congrFun List.filterMap_eq_map' _

theorem map_locals_of_compileBatch
    (hok : (compileBatch options handler ds sources).2.result = .ok methods) :
    methods.map Method.locals = ds.map locals := by
  obtain ⟨hall, -⟩ := compileBatch_ok hok
  have hsame : List.Forall₂ (fun d method => d.locals = method.locals) ds methods :=
    hall.imp fun d method hmakes => hmakes.1.locals_eq.symm
  rw [← List.forall₂_map_right_iff, ← List.forall₂_map_left_iff, List.forall₂_eq_eq_eq] at hsame
  exact hsame.symm

/-! ## Where a variable comes from -/

/-- The elements of the document for which objects are constructed. -/
def constructed (d : Document) : List Head :=
  match d.root with
  | some root => root.constructed
  | none => []

theorem map_unnamed_constructed (d : Document) :
    d.named.constructed.map Head.unnamed = d.constructed.map Head.unnamed := by
  obtain ⟨name, root, instructions⟩ := d
  cases root with
  | none => rfl
  | some root =>
      show (root.identify "" root.fxIds).1.constructed.map Head.unnamed = _
      rw [← Element.constructed_unnamed, Element.unnamed_identify, Element.constructed_unnamed]
      rfl

theorem constructed_subset_heads (d : Document) : d.constructed ⊆ d.heads := by
  obtain ⟨name, root, instructions⟩ := d
  cases root with
  | none => exact List.nil_subset _
  | some root => exact root.constructed_sublist.subset

theorem isObject_of_mem_constructed {d : Document} {h : Head} (hmem : h ∈ d.constructed) :
    h.isObject = true := by
  obtain ⟨name, root, instructions⟩ := d
  cases root with
  | none => cases hmem
  | some root => exact root.isObject_of_mem_constructed h hmem

theorem declaring_eq (d : Document) : d.declaring = d.constructed.filter Head.declaresVar := by
  obtain ⟨name, root, instructions⟩ := d
  cases root <;> rfl

end Document

/-- An element without `fx:id` is named by its seed. -/
theorem Head.identify_of_fxId_none {h : Head} (hnone : h.identifier = none)
    (hobject : h.isObject = true) (hfx : h.fxId = none) (owner : String) (taken : List String) :
    h.identify owner taken = h.identifyFresh h.declarationSeed taken := by
  unfold isObject at hobject
  split at hobject
  · rename_i hkind
    simp only [identify, hnone, hkind, hfx]
  · rename_i hkind
    simp only [identify, hnone, hkind, hfx]
  · cases hobject

/-- The name it gets is its base name with digits behind it. -/
theorem NamingPass.isRival_identifier {hs hs' : List Head} {taken taken' : List String}
    (pass : NamingPass hs taken hs' taken') (hnone : ∀ h ∈ hs, h.identifier = none) :
    ∀ h ∈ hs', h.isObject = true → h.fxId = none →
      ∀ x, h.identifier = some x → isRival (baseName h.declarationSeed) x = true := by
  induction pass with
  | nil => exact fun h hmem => (List.not_mem_nil hmem).elim
  | @cons h _ _ taken _ owner _ ih =>
      intro g hg hobject hfx x hx
      rcases List.mem_cons.mp hg with rfl | hg
      · have hsame := h.unnamed_identify owner taken
        have hfx' : h.fxId = none := (congrArg Head.fxId hsame).symm.trans hfx
        have hobject' : h.isObject = true := (congrArg Head.isObject hsame).symm.trans hobject
        rw [Head.identify_of_fxId_none (hnone h List.mem_cons_self) hobject' hfx'] at hx ⊢
        cases hx
        exact isRival_candidate _ _
      · exact ih (fun g hg => hnone g (List.mem_cons_of_mem _ hg)) g hg hobject hfx x hx

/-- Where these are the `fx:id`s of the document, the element can get the
variable: it is an include with that `fx:id`, or it has no `fx:id`, nor
has another element that one, and its base name fits. -/
def Head.mayDeclare (fxIds : List String) (var : String) (h : Head) : Bool :=
  match h.fxId with
  | some fxId => h.source?.isSome && fxId == var
  | none => !fxIds.contains var && isRival (baseName h.declarationSeed) var

namespace Document

variable {options : Options} {handler : Handler} {ds : List Document} {sources : Sources}
  {methods : List Method}

/-- An element of the document can get the variable. This is one-sided: if
none can, none has it, but one that can need not get it, as the name may be
taken in front of it by an element that is not constructed. Of a `Bundle` in
an `fx:define` and a `Bundle` behind that, the second is `bundle1`. -/
def mayDeclare (d : Document) (var : String) : Bool :=
  d.constructed.any (Head.mayDeclare (d.heads.filterMap (·.fxId)) var)

theorem mem_locals_iff {d : Document} {var : String} :
    var ∈ d.locals
      ↔ ∃ h ∈ d.named.constructed, h.declaresVar = true ∧ h.identifier = some var := by
  obtain ⟨taken, pass⟩ := d.identify_pass {}
  rw [locals, List.mem_map, declaring_eq]
  simp only [List.mem_filter, and_assoc]
  refine exists_congr fun h => and_congr_right fun hmem => and_congr_right fun _ => ?_
  obtain ⟨x, hx⟩ := pass.exists_identifier h (d.named.constructed_subset_heads hmem)
    (by simp [Head.needsName, isObject_of_mem_constructed hmem])
  rw [Head.identifierText, hx, Option.getD_some, Option.some.injEq]

/-- An element that has got the variable was one that can. -/
theorem mayDeclare_of_mem_constructed {d : Document} (hnone : ∀ h ∈ d.heads, h.identifier = none)
    {h : Head} (hmem : h ∈ d.named.constructed) (hdeclares : h.declaresVar = true) {var : String}
    (hx : h.identifier = some var) : h.mayDeclare (d.heads.filterMap (·.fxId)) var = true := by
  obtain ⟨taken, pass⟩ := d.identify_pass {}
  have hhead : h ∈ d.named.heads := d.named.constructed_subset_heads hmem
  have hobject : h.isObject = true := isObject_of_mem_constructed hmem
  have hown : h.ownFxId? = h.fxId := by rw [Head.ownFxId?, if_pos hobject]
  unfold Head.mayDeclare
  cases hfx : h.fxId with
  | some fxId =>
      -- Named by its `fx:id`, it has a variable of its own as an include only.
      have hid := pass.identifier_of_fxId hnone h hhead fxId (hown.trans hfx)
      obtain rfl : fxId = var := Option.some.inj (hid.symm.trans hx)
      have htext : h.identifierText = fxId := by rw [Head.identifierText, hid, Option.getD_some]
      simpa [Head.declaresVar, hfx, htext] using hdeclares
  | none =>
      have hmade : h.madeName? = some var := by rw [Head.madeName?, hown, hfx, hx]
      obtain ⟨-, -, hfree⟩ := pass.made_spec hnone
      have hnot := hfree var (List.mem_filterMap.mpr ⟨h, hhead, hmade⟩)
      have hrival := pass.isRival_identifier hnone h hhead hobject hfx var hx
      simp only [List.contains_eq_mem, hnot, decide_false, Bool.not_false, hrival, Bool.and_self]

theorem mayDeclare_of_mem_locals {d : Document} (hnone : ∀ h ∈ d.heads, h.identifier = none)
    {var : String} (hvar : var ∈ d.locals) : d.mayDeclare var = true := by
  obtain ⟨h, hmem, hdeclares, hx⟩ := mem_locals_iff.mp hvar
  have hmay := mayDeclare_of_mem_constructed hnone hmem hdeclares hx
  -- Whether it can does not depend on names, so the head before naming will do.
  have hin : h.unnamed ∈ d.constructed.map Head.unnamed := by
    rw [← map_unnamed_constructed]
    exact List.mem_map_of_mem hmem
  obtain ⟨g, hg, hgh⟩ := List.mem_map.mp hin
  have hsame : g.mayDeclare (d.heads.filterMap (·.fxId)) var
      = h.mayDeclare (d.heads.filterMap (·.fxId)) var :=
    congrArg (Head.mayDeclare (d.heads.filterMap (·.fxId)) var) hgh
  exact List.any_eq_true.mpr ⟨g, hg, hsame.trans hmay⟩

/-- An include has its `fx:id` as variable, whatever else is called so. -/
theorem mem_locals_of_include {d : Document} (hnone : ∀ h ∈ d.heads, h.identifier = none)
    {g : Head} (hg : g ∈ d.constructed) (hsource : g.source?.isSome = true) {var : String}
    (hfx : g.fxId = some var) : var ∈ d.locals := by
  obtain ⟨taken, pass⟩ := d.identify_pass {}
  have hin : g.unnamed ∈ d.named.constructed.map Head.unnamed := by
    rw [map_unnamed_constructed]
    exact List.mem_map_of_mem hg
  obtain ⟨h, hmem, hhg⟩ := List.mem_map.mp hin
  have hfx' : h.fxId = some var := (congrArg Head.fxId hhg).trans hfx
  have hsource' : h.source?.isSome = true :=
    (congrArg (fun h : Head => h.source?.isSome) hhg).trans hsource
  have hown : h.ownFxId? = some var := by
    rw [Head.ownFxId?, if_pos (isObject_of_mem_constructed hmem), hfx']
  refine mem_locals_iff.mpr ⟨h, hmem, by simp [Head.declaresVar, hsource'], ?_⟩
  exact pass.identifier_of_fxId hnone h (d.named.constructed_subset_heads hmem) var hown

/-! ## Batches -/

/-- The methods of a batch hide none of the variables they read from the
controller exactly if no document has an element with a variable of that
name. Such a document has an include with that `fx:id`, which is then
enough, or an element without `fx:id` whose base name fits. -/
theorem compileBatch_hides_iff
    (hok : (compileBatch options handler ds sources).2.result = .ok methods)
    (hnone : ∀ d ∈ ds, ∀ h ∈ d.heads, h.identifier = none) :
    ((∀ method ∈ methods, ∀ var ∈ options.outerNames, var ∉ method.locals)
        ↔ ∀ d ∈ ds, ∀ var ∈ options.outerNames, var ∉ d.locals)
      ∧ ∀ d ∈ ds, ∀ var, (var ∈ d.locals → d.mayDeclare var = true)
        ∧ ∀ h ∈ d.constructed, h.source?.isSome = true → h.fxId = some var → var ∈ d.locals := by
  have hlocals := map_locals_of_compileBatch hok
  refine ⟨?_, fun d hd var => ⟨mayDeclare_of_mem_locals (hnone d hd), fun h hh hsource hfx => ?_⟩⟩
  · have hall : (∀ vars ∈ methods.map Method.locals, ∀ var ∈ options.outerNames, var ∉ vars)
        ↔ ∀ vars ∈ ds.map locals, ∀ var ∈ options.outerNames, var ∉ vars := by rw [hlocals]
    rwa [List.forall_mem_map, List.forall_mem_map] at hall
  · exact mem_locals_of_include (hnone d hd) hh hsource hfx

/-- A view with a box that holds these and a label with a text from the
bundle. -/
def labelled (children : List Element) : Document where
  name := "Main"
  root := some <| .mk { kind := .declaration (some "com.example.Main"), name := "VBox" }
    (children ++ [.leaf { kind := .declaration none, name := "Label"
                          attributes := [⟨"text", "%title", .instanceProperty⟩] }])

/-- An element that would be named as the bundle is, but for the `fx:id` of
another, which is a field; and an include with a variable of its own. -/
def fieldBundle : Document := labelled [
  .leaf { kind := .declaration none, name := "Bundle" },
  .leaf { kind := .declaration none, name := "Bundle", fxId := some "bundle" },
  .leaf { kind := .include "Main.fxml", name := "include", fxId := some "side" }]

theorem compileBatch_hides_iff_fieldBundle :
    ∃ methods, (compileBatch {} Handler.methodRef [fieldBundle]
        (Sources.declare {} "com.example.Main")).2.result = .ok methods
      ∧ (∀ d ∈ [fieldBundle], ∀ h ∈ d.heads, h.identifier = none)
      ∧ fieldBundle.locals = ["vBox", "bundle1", "side", "label"]
      ∧ fieldBundle.mayDeclare "bundle" = false
      ∧ ∀ method ∈ methods, ∀ var ∈ Options.outerNames {}, var ∉ method.locals := by
  obtain ⟨methods, hok⟩ : ∃ methods, (compileBatch {} Handler.methodRef [fieldBundle]
      (Sources.declare {} "com.example.Main")).2.result = .ok methods :=
    exists_ok_of_isOk (by decide +kernel)
  have hnone : ∀ d ∈ [fieldBundle], ∀ h ∈ d.heads, h.identifier = none := by decide +kernel
  have hfree : ∀ d ∈ [fieldBundle], ∀ var ∈ Options.outerNames {}, var ∉ d.locals := by
    decide +kernel
  exact ⟨methods, hok, hnone, by decide +kernel, by decide +kernel,
    (compileBatch_hides_iff hok hnone).1.mpr hfree⟩

/-- An element that gets the name of the bundle. -/
def bundleElement : Document := labelled [.leaf { kind := .declaration none, name := "Bundle" }]

/-- The text of the label and the call of the hook read the variable of the
element instead of the bundle. -/
theorem bundleElement_hides :
    (∀ h ∈ bundleElement.heads, h.identifier = none)
      ∧ ∃ method, (compileBatch {} Handler.methodRef [bundleElement]
          (Sources.declare {} "com.example.Main")).2.result = .ok [method]
        ∧ method.body.map Stmt.render
          = ["VBox vBox = new VBox();", "Bundle bundle = new Bundle();",
            "Label label = new Label();", "label.setText(bundle.getString(\"title\"));",
            "initialize(null, bundle);", "return vBox;"]
        ∧ Options.bundle {} ∈ method.locals :=
  ⟨by decide, _, rfl, by decide +kernel, by decide +kernel⟩

end Document

end FxmlCodegen
