import FxmlCodegen.Proofs.NamingPass

/-!
# Names in a document are unique

What naming promises about a document none of whose elements had a name
(`WellNamed`), for every document and whatever the scope held before:
every object, include and property has a variable, an `fx:id` is used as
it is, and two elements share a variable only where the author gave both
the same `fx:id`. `Document.identify_wellNamed` proves it from the pass
over the heads.

The heart is `NamingPass.pairwise_sharesByFxId`. Of two heads with one
name, either both names were made, which `made_spec` rules out; or one was
made and the other is an `fx:id`, which was taken before the first name
was made; or both are `fx:id`s. That every `fx:id` is taken beforehand,
also those on elements that do not use theirs, is what the second case
needs. `identifiers_nodup` is the form later proofs use: where the `fx:id`s
of objects differ, so do all names.
-/

namespace FxmlCodegen

/-- A name the two heads share is the `fx:id` that names both. -/
def Head.SharesByFxId (g h : Head) : Prop :=
  ∀ x, g.identifier = some x → h.identifier = some x →
    g.ownFxId? = some x ∧ h.ownFxId? = some x

theorem Head.SharesByFxId.symm {g h : Head} (hgh : g.SharesByFxId h) : h.SharesByFxId g :=
  fun x hx gx => (hgh x gx hx).symm

/-- The name of a head is its own `fx:id` or a made one. -/
theorem Head.ownFxId?_or_madeName? {h : Head} {x : String} (hx : h.identifier = some x)
    (hown : ∀ y, h.ownFxId? = some y → h.identifier = some y) :
    h.ownFxId? = some x ∨ (h.ownFxId? = none ∧ h.madeName? = some x) := by
  cases hfx : h.ownFxId? with
  | some y =>
      rw [hown y hfx] at hx
      exact Or.inl hx
  | none => exact Or.inr ⟨rfl, by rw [madeName?, hfx, hx]⟩

theorem Head.fxId_of_ownFxId? {h : Head} {x : String} (hx : h.ownFxId? = some x) :
    h.fxId = some x := by
  unfold ownFxId? at hx
  split at hx
  · exact hx
  · cases hx

namespace NamingPass

variable {hs hs' : List Head} {taken taken' : List String}

/-- A head after the pass has the kind, `fx:id` and all else of one
before it. -/
theorem exists_unnamed_eq (pass : NamingPass hs taken hs' taken') {h : Head} (hmem : h ∈ hs') :
    ∃ g ∈ hs, g.unnamed = h.unnamed := by
  have hin : h.unnamed ∈ hs.map Head.unnamed := by
    rw [← pass.map_unnamed]
    exact List.mem_map_of_mem hmem
  exact List.mem_map.mp hin

theorem fxId_mem_taken (pass : NamingPass hs taken hs' taken')
    (hfx : ∀ h ∈ hs, ∀ x, h.fxId = some x → x ∈ taken) {h : Head} (hmem : h ∈ hs') {x : String}
    (hx : h.fxId = some x) : x ∈ taken := by
  obtain ⟨g, hg, heq⟩ := pass.exists_unnamed_eq hmem
  have hgx : g.unnamed.fxId = h.unnamed.fxId := congrArg Head.fxId heq
  exact hfx g hg x (hgx.trans hx)

/-- Where the `fx:id`s of all heads were taken at the start, heads at two
places share a name only by their `fx:id`. -/
theorem pairwise_sharesByFxId (pass : NamingPass hs taken hs' taken')
    (hnone : ∀ h ∈ hs, h.identifier = none)
    (hfx : ∀ h ∈ hs, ∀ x, h.fxId = some x → x ∈ taken) :
    hs'.Pairwise Head.SharesByFxId := by
  obtain ⟨-, hnodup, hfree⟩ := pass.made_spec hnone
  have hown := pass.identifier_of_fxId hnone
  -- a made name is no `fx:id`, since those were taken before it was made
  have hapart : ∀ g ∈ hs', ∀ h ∈ hs', ∀ x,
      g.madeName? = some x → h.ownFxId? = some x → False := by
    intro g hg h hh x hmade hid
    exact hfree x (List.mem_filterMap.mpr ⟨g, hg, hmade⟩)
      (pass.fxId_mem_taken hfx hh (Head.fxId_of_ownFxId? hid))
  rw [List.Nodup, List.pairwise_filterMap] at hnodup
  refine hnodup.imp_of_mem ?_
  intro g h hg hh hdiffer x hgx hhx
  rcases Head.ownFxId?_or_madeName? hgx (hown g hg) with hgid | ⟨-, hgmade⟩
  · rcases Head.ownFxId?_or_madeName? hhx (hown h hh) with hhid | ⟨-, hhmade⟩
    · exact ⟨hgid, hhid⟩
    · exact (hapart h hh g hg x hhmade hgid).elim
  · rcases Head.ownFxId?_or_madeName? hhx (hown h hh) with hhid | ⟨-, hhmade⟩
    · exact (hapart g hg h hh x hgmade hhid).elim
    · exact (hdiffer x hgmade x hhmade rfl).elim

/-- Where besides the `fx:id`s of objects differ, all names do. -/
theorem identifiers_nodup (pass : NamingPass hs taken hs' taken')
    (hnone : ∀ h ∈ hs, h.identifier = none)
    (hfx : ∀ h ∈ hs, ∀ x, h.fxId = some x → x ∈ taken)
    (hids : (hs.filterMap Head.ownFxId?).Nodup) :
    (hs'.filterMap (·.identifier)).Nodup := by
  have hids' : (hs'.filterMap Head.ownFxId?).Nodup := by
    have hsame : ∀ l : List Head,
        (l.map Head.unnamed).filterMap Head.ownFxId? = l.filterMap Head.ownFxId? := fun l => by
      rw [List.filterMap_map]
      rfl
    rw [← hsame, pass.map_unnamed, hsame]
    exact hids
  have hshare := pass.pairwise_sharesByFxId hnone hfx
  rw [List.Nodup, List.pairwise_filterMap] at hids' ⊢
  refine (hids'.and hshare).imp ?_
  rintro g h ⟨hdiffer, hgh⟩ x hgx y hhy rfl
  obtain ⟨hgid, hhid⟩ := hgh x hgx hhy
  exact hdiffer x hgid x hhid rfl

end NamingPass

/-! ## Documents -/

/-- How `after`, the heads of a named document, stand to `before`, those
of the document that had no names. -/
structure WellNamed (before after : List Head) : Prop where
  /-- Only identifiers were added. -/
  kept : after.map Head.unnamed = before
  /-- Declarations, includes and properties have one. -/
  named : ∀ h ∈ after, h.needsName = true → ∃ x, h.identifier = some x
  /-- A declaration or include with an `fx:id` has that one. -/
  byFxId : ∀ h ∈ after, h.isObject = true → ∀ x, h.fxId = some x → h.identifier = some x
  /-- Every other identifier differs from every `fx:id`, on whatever
  element that one stands. -/
  madeApart : ∀ h ∈ after, h.ownFxId? = none → ∀ x, h.identifier = some x →
    ∀ g ∈ before, g.fxId ≠ some x
  /-- Elements at different positions share an identifier only as objects
  with that `fx:id`. -/
  shared : ∀ i j (hi : i < after.length) (hj : j < after.length), i ≠ j →
    ∀ x, after[i].identifier = some x → after[j].identifier = some x →
      after[i].ownFxId? = some x ∧ after[j].ownFxId? = some x

theorem Document.fxId_mem_fxIds {d : Document} :
    ∀ h ∈ d.heads, ∀ x, h.fxId = some x → x ∈ d.heads.filterMap (·.fxId) :=
  fun h hmem _ hx => List.mem_filterMap.mpr ⟨h, hmem, hx⟩

/-- Naming a document without names names it well. -/
theorem Document.identify_wellNamed (d : Document) (s : Scope)
    (hnone : ∀ h ∈ d.heads, h.identifier = none) :
    WellNamed d.heads (d.identify s).1.heads := by
  obtain ⟨taken, pass⟩ := d.identify_pass s
  refine ⟨?_, pass.exists_identifier, ?_, ?_, ?_⟩
  · rw [pass.map_unnamed, List.map_congr_left fun h hmem => Head.unnamed_eq_self (hnone h hmem)]
    exact List.map_id' _
  · intro h hmem hobj x hx
    exact pass.identifier_of_fxId hnone h hmem x (by rw [Head.ownFxId?, if_pos hobj, hx])
  · intro h hmem hfx x hx g hg hgx
    obtain ⟨-, -, hfree⟩ := pass.made_spec hnone
    have hmade : h.madeName? = some x := by rw [Head.madeName?, hfx, hx]
    exact hfree x (List.mem_filterMap.mpr ⟨h, hmem, hmade⟩) (Document.fxId_mem_fxIds g hg x hgx)
  · intro i j hi hj hij x hxi hxj
    have hpair := List.pairwise_iff_getElem.mp
      (pass.pairwise_sharesByFxId hnone Document.fxId_mem_fxIds)
    rcases Nat.lt_or_gt_of_ne hij with hlt | hlt
    · exact hpair i j hi hj hlt x hxi hxj
    · exact (hpair j i hj hi hlt).symm x hxi hxj

/-- A document in which made names meet an `fx:id` of a later object and
one on an element that does not use it. -/
def contestedNames : Document where
  name := "Main"
  root := some <| .mk { kind := .declaration (some "com.example.Main"), name := "VBox" } [
    .mk { kind := .property .instanceProperty, name := "children" } [
      .leaf { kind := .declaration none, name := "Button" },
      .leaf { kind := .declaration none, name := "Button", fxId := some "button" },
      .leaf { kind := .reference, name := "fx:reference", fxId := some "button1" }]]

theorem identify_wellNamed_contestedNames :
    (∀ h ∈ contestedNames.heads, h.identifier = none)
      ∧ (contestedNames.identify {}).1.heads.map Head.identifierText
        = ["vBox", "vBoxChildren", "button2", "button", ""]
      ∧ WellNamed contestedNames.heads (contestedNames.identify {}).1.heads :=
  ⟨by decide, by decide +kernel, contestedNames.identify_wellNamed {} (by decide)⟩

end FxmlCodegen
