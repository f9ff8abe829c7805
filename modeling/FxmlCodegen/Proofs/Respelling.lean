import FxmlCodegen.Json.Fields
import Mathlib.Data.List.Perm.Basic
import Mathlib.Logic.Relation

/-!
# JSON spelled otherwise

The same value can be spelled by many JSON objects: members may come in any
order, members that nobody asks for may be there, and a member that says
nothing may be missing. `Grammar.Respells` is one such change, in an object
or anywhere inside it. What is unknown and what says nothing depends on what
the object is read as; a `Grammar` says so for the nodes of a codec.

A codec reads all spellings alike if it reads objects alike whose members
are (`Grammar.Stable`), which is about one object at a time and says nothing
about depth. To show it, a codec needs that each way to read a member gives
the same for members that are alike (`ValueAlike.required_eq` and those
after it), and that the keys it asks for are the same (`tag?_alike`).
-/

namespace FxmlCodegen.Json

/-! ## Grammars -/

/-- How the nodes of a codec, of one sort or another, are read. -/
structure Grammar (σ : Type) where
  Value : σ → Type
  decode : (s : σ) → Json → Option (Value s)
  /-- The keys that an object with these members is asked for. -/
  known : σ → Fields → List String
  /-- The value that a member may as well not have. -/
  blank? : σ → String → Option Json
  /-- The sort of the node under a key, or of the nodes in the list there. -/
  inner? : σ → String → Option σ

namespace Grammar

variable {σ : Type}

/-- The second value spells the node as the first does, but for one change. -/
inductive Respells (G : Grammar σ) : σ → Json → Json → Prop where
  | reorder {s : σ} {fields fields' : Fields} (hperm : fields.Perm fields') :
    Respells G s (.obj fields) (.obj fields')
  | add {s : σ} {key : String} {value : Json} {fields : Fields} (hkey : key ∉ G.known s fields) :
    Respells G s (.obj fields) (.obj ((key, value) :: fields))
  | leaveOut {s : σ} {key : String} {value : Json} {fields : Fields}
    (hblank : G.blank? s key = some value) (honce : fields.get? key = none) :
    Respells G s (.obj ((key, value) :: fields)) (.obj fields)
  | member {s t : σ} {key : String} {value value' : Json} {fields : Fields}
    (hinner : G.inner? s key = some t) (hvalue : Respells G t value value') :
    Respells G s (.obj ((key, value) :: fields)) (.obj ((key, value') :: fields))
  | item {s t : σ} {key : String} {before after : List Json} {value value' : Json} {fields : Fields}
    (hinner : G.inner? s key = some t) (hvalue : Respells G t value value') :
    Respells G s (.obj ((key, .arr (before ++ value :: after)) :: fields))
      (.obj ((key, .arr (before ++ value' :: after)) :: fields))

/-- The two values spell the same node: one comes from the other by such
changes, made or undone. -/
def SpellAlike (G : Grammar σ) (s : σ) : Json → Json → Prop := Relation.EqvGen (G.Respells s)

end Grammar

/-! ## Members -/

/-- How often a key is given. -/
def Fields.times (fields : Fields) (key : String) : Nat := (fields.filter (·.1 == key)).length

namespace Grammar

variable {σ : Type}

/-- The member under a key is read from the second value as from the
first. -/
inductive ValueAlike (G : Grammar σ) (s : σ) (key : String) : Option Json → Option Json → Prop where
  | same (value : Option Json) : ValueAlike G s key value value
  | omitted {value : Json} (hblank : G.blank? s key = some value) :
    ValueAlike G s key (some value) none
  | node {t : σ} {fields fields' : Fields} (hinner : G.inner? s key = some t)
    (hread : G.decode t (.obj fields') = G.decode t (.obj fields)) :
    ValueAlike G s key (some (.obj fields)) (some (.obj fields'))
  | item {t : σ} {before after : List Json} {value value' : Json} (hinner : G.inner? s key = some t)
    (hread : G.decode t value' = G.decode t value) :
    ValueAlike G s key (some (.arr (before ++ value :: after)))
      (some (.arr (before ++ value' :: after)))

/-- The members under a key are alike. -/
structure MemberAlike (G : Grammar σ) (s : σ) (fields fields' : Fields) (key : String) : Prop where
  once_iff : fields'.times key ≤ 1 ↔ fields.times key ≤ 1
  value : fields.times key ≤ 1 → G.ValueAlike s key (fields.get? key) (fields'.get? key)

/-- Nodes whose members are alike are read alike. -/
def Stable (G : Grammar σ) : Prop :=
  ∀ s fields fields', (∀ key ∈ G.known s fields, G.MemberAlike s fields fields' key) →
    G.decode s (.obj fields') = G.decode s (.obj fields)

end Grammar

namespace Fields

variable {fields fields' : Fields} {key : String}

theorem times_cons_of_ne {k : String} (hne : key ≠ k) (value : Json) (fields : Fields) :
    Fields.times ((k, value) :: fields) key = Fields.times fields key := by
  simp [times, hne.symm]

theorem times_cons_self (key : String) (value : Json) (fields : Fields) :
    Fields.times ((key, value) :: fields) key = Fields.times fields key + 1 := by
  simp [times]

theorem get?_cons_of_ne {k : String} (hne : key ≠ k) (value : Json) (fields : Fields) :
    Fields.get? ((k, value) :: fields) key = Fields.get? fields key := by
  rw [get?, List.lookup_cons, beq_false_of_ne hne]
  rfl

theorem get?_cons_self (key : String) (value : Json) (fields : Fields) :
    Fields.get? ((key, value) :: fields) key = some value := by
  simp [get?]

/-- The first member with a key is the first of those with that key. -/
theorem get?_eq_head? (key : String) : ∀ fields : Fields,
    fields.get? key = (fields.filter (·.1 == key)).head?.map Prod.snd
  | [] => rfl
  | (k, value) :: fields => by
      by_cases hkey : key = k
      · subst hkey
        simp [get?]
      · rw [get?_cons_of_ne hkey, get?_eq_head? key fields, List.filter_cons_of_neg]
        simpa using Ne.symm hkey

theorem times_eq_zero (hnone : fields.get? key = none) : fields.times key = 0 := by
  rw [get?_eq_head?, Option.map_eq_none_iff, List.head?_eq_none_iff] at hnone
  rw [times, hnone, List.length_nil]

theorem get?_perm (hperm : fields.Perm fields') (honce : fields.times key ≤ 1) :
    fields'.get? key = fields.get? key := by
  have hfilter := hperm.filter (·.1 == key)
  rw [get?_eq_head?, get?_eq_head?]
  rcases Nat.le_one_iff_eq_zero_or_eq_one.mp honce with hnone | hone
  · have hgiven : fields.filter (·.1 == key) = [] := List.length_eq_zero_iff.mp hnone
    rw [hgiven] at hfilter ⊢
    rw [List.nil_perm.mp hfilter]
  · obtain ⟨member, hgiven⟩ : ∃ member, fields.filter (·.1 == key) = [member] :=
      List.length_eq_one_iff.mp hone
    rw [hgiven] at hfilter ⊢
    rw [List.singleton_perm.mp hfilter]

theorem isOnce_iff {keys : List String} :
    fields.isOnce keys = true ↔ ∀ key ∈ keys, fields.times key ≤ 1 := by
  simp [isOnce, times]

end Fields

/-! ## One change -/

namespace Grammar

variable {σ : Type} {G : Grammar σ} {s t : σ} {key : String} {value value' : Json}
  {fields fields' : Fields}

theorem memberAlike_of_perm (hperm : fields.Perm fields') (key : String) :
    G.MemberAlike s fields fields' key where
  once_iff := by
    rw [Fields.times, Fields.times, (hperm.filter _).length_eq]
  value := fun honce => by
    rw [Fields.get?_perm hperm honce]
    exact .same _

theorem memberAlike_head (hvalue : G.ValueAlike s key (some value) (some value')) (other : String) :
    G.MemberAlike s ((key, value) :: fields) ((key, value') :: fields) other := by
  by_cases hother : other = key
  · subst hother
    refine ⟨by rw [Fields.times_cons_self, Fields.times_cons_self], fun _ => ?_⟩
    rw [Fields.get?_cons_self, Fields.get?_cons_self]
    exact hvalue
  · refine ⟨by rw [Fields.times_cons_of_ne hother, Fields.times_cons_of_ne hother], fun _ => ?_⟩
    rw [Fields.get?_cons_of_ne hother, Fields.get?_cons_of_ne hother]
    exact .same _

theorem Respells.exists_obj (h : G.Respells s value value') :
    (∃ fields, value = .obj fields) ∧ ∃ fields, value' = .obj fields := by
  cases h <;> exact ⟨⟨_, rfl⟩, _, rfl⟩

/-- A node is read alike in both spellings. -/
theorem Stable.decode_eq (hG : G.Stable) (h : G.Respells s value value') :
    G.decode s value' = G.decode s value := by
  induction h with
  | reorder hperm => exact hG _ _ _ fun key _ => memberAlike_of_perm hperm key
  | @add s key value fields hkey =>
      refine hG _ _ _ fun other hother => ?_
      have hne : other ≠ key := fun heq => hkey (heq ▸ hother)
      refine ⟨by rw [Fields.times_cons_of_ne hne], fun _ => ?_⟩
      rw [Fields.get?_cons_of_ne hne]
      exact .same _
  | @leaveOut s key value fields hblank honce =>
      refine hG _ _ _ fun other _ => ?_
      by_cases hother : other = key
      · subst hother
        have hnone := Fields.times_eq_zero honce
        refine ⟨by rw [Fields.times_cons_self]; omega, fun _ => ?_⟩
        rw [Fields.get?_cons_self, honce]
        exact .omitted hblank
      · refine ⟨by rw [Fields.times_cons_of_ne hother], fun _ => ?_⟩
        rw [Fields.get?_cons_of_ne hother]
        exact .same _
  | member hinner hvalue ih =>
      obtain ⟨⟨inside, rfl⟩, inside', rfl⟩ := hvalue.exists_obj
      exact hG _ _ _ fun key _ => memberAlike_head (.node hinner ih) key
  | item hinner hvalue ih => exact hG _ _ _ fun key _ => memberAlike_head (.item hinner ih) key

/-- However many changes lie between two spellings, and whichever way they
went, the node is read alike. -/
theorem Stable.decode_eq_of_spellAlike (hG : G.Stable) (h : G.SpellAlike s value value') :
    G.decode s value' = G.decode s value := by
  induction h with
  | rel _ _ hstep => exact hG.decode_eq hstep
  | refl => rfl
  | symm _ _ _ ih => exact ih.symm
  | trans _ _ _ _ _ ih ih' => exact ih'.trans ih

end Grammar

/-! ## Reading members -/

/-- The reader has no use for objects and lists. -/
structure IsScalar {α : Type} (read : Json → Option α) : Prop where
  obj : ∀ fields, read (.obj fields) = none
  arr : ∀ items, read (.arr items) = none

theorem isScalar_string? : IsScalar string? := ⟨fun _ => rfl, fun _ => rfl⟩

theorem isScalar_bool? : IsScalar bool? := ⟨fun _ => rfl, fun _ => rfl⟩

theorem isScalar_tag? (form : TagForm) (tags : List String) : IsScalar (form.tag? tags) :=
  ⟨fun _ => rfl, fun _ => rfl⟩

namespace Grammar

variable {σ α : Type} {G : Grammar σ} {s t : σ} {key : String} {fields fields' : Fields}
  {read : Json → Option α}

/-- The reader gives the same for values of this sort, or lists of them,
that are read alike. -/
structure Respects (G : Grammar σ) (t : σ) (read : Json → Option α) : Prop where
  obj : ∀ fields fields', G.decode t (.obj fields') = G.decode t (.obj fields) →
    read (.obj fields') = read (.obj fields)
  arr : ∀ before value value' after, G.decode t value' = G.decode t value →
    read (.arr (before ++ value' :: after)) = read (.arr (before ++ value :: after))

theorem respects_of_isScalar (hread : IsScalar read) (t : σ) : G.Respects t read where
  obj := fun fields fields' _ => by rw [hread.obj, hread.obj]
  arr := fun before value value' after _ => by rw [hread.arr, hread.arr]

theorem respects_decode (harr : ∀ items, G.decode t (.arr items) = none) :
    G.Respects t (G.decode t) where
  obj := fun _ _ h => h
  arr := fun before value value' after _ => by rw [harr, harr]

/-- The list of nodes that a value holds. -/
theorem respects_list (t : σ) :
    G.Respects t fun value => do (← value.list?).mapM (G.decode t) where
  obj := fun _ _ _ => rfl
  arr := fun before value value' after h => by
    simp only [list?, Option.bind_eq_bind, Option.bind_some, List.mapM_append, List.mapM_cons, h]

namespace ValueAlike

theorem required_eq (h : G.ValueAlike s key (fields.get? key) (fields'.get? key))
    (hblank : G.blank? s key = none) (hread : ∀ t, G.inner? s key = some t → G.Respects t read) :
    fields'.required key read = fields.required key read := by
  unfold Fields.required
  generalize fields.get? key = value at h
  generalize fields'.get? key = value' at h
  cases h with
  | same => rfl
  | omitted hsome =>
      rw [hblank] at hsome
      cases hsome
  | node hinner h => exact (hread _ hinner).obj _ _ h
  | item hinner h => exact (hread _ hinner).arr _ _ _ _ h

theorem optional_eq (h : G.ValueAlike s key (fields.get? key) (fields'.get? key))
    (hblank : ∀ value, G.blank? s key = some value → value = .null)
    (hread : ∀ t, G.inner? s key = some t → G.Respects t read) :
    fields'.optional key read = fields.optional key read := by
  unfold Fields.optional
  generalize fields.get? key = value at h
  generalize fields'.get? key = value' at h
  cases h with
  | same => rfl
  | omitted hsome =>
      rw [hblank _ hsome]
  | node hinner h => exact congrArg (Option.map some) ((hread _ hinner).obj _ _ h)
  | item hinner h => exact congrArg (Option.map some) ((hread _ hinner).arr _ _ _ _ h)

theorem withDefault_eq (h : G.ValueAlike s key (fields.get? key) (fields'.get? key)) {default : α}
    (hblank : ∀ value, G.blank? s key = some value → read value = some default)
    (hread : ∀ t, G.inner? s key = some t → G.Respects t read) :
    fields'.withDefault key default read = fields.withDefault key default read := by
  unfold Fields.withDefault
  generalize fields.get? key = value at h
  generalize fields'.get? key = value' at h
  cases h with
  | same => rfl
  | omitted hsome => exact (hblank _ hsome).symm
  | node hinner h => exact (hread _ hinner).obj _ _ h
  | item hinner h => exact (hread _ hinner).arr _ _ _ _ h

theorem required_scalar (h : G.ValueAlike s key (fields.get? key) (fields'.get? key))
    (hblank : G.blank? s key = none) (hread : IsScalar read) :
    fields'.required key read = fields.required key read :=
  h.required_eq hblank fun t _ => respects_of_isScalar hread t

theorem optional_scalar (h : G.ValueAlike s key (fields.get? key) (fields'.get? key))
    (hblank : ∀ value, G.blank? s key = some value → value = .null) (hread : IsScalar read) :
    fields'.optional key read = fields.optional key read :=
  h.optional_eq hblank fun t _ => respects_of_isScalar hread t

theorem required_node (h : G.ValueAlike s key (fields.get? key) (fields'.get? key))
    (hblank : G.blank? s key = none) (hinner : G.inner? s key = some t)
    (harr : ∀ items, G.decode t (.arr items) = none) :
    fields'.required key (G.decode t) = fields.required key (G.decode t) := by
  refine h.required_eq hblank fun t' ht' => ?_
  cases hinner.symm.trans ht'
  exact respects_decode harr

theorem optional_node (h : G.ValueAlike s key (fields.get? key) (fields'.get? key))
    (hblank : ∀ value, G.blank? s key = some value → value = .null)
    (hinner : G.inner? s key = some t) (harr : ∀ items, G.decode t (.arr items) = none) :
    fields'.optional key (G.decode t) = fields.optional key (G.decode t) := by
  refine h.optional_eq hblank fun t' ht' => ?_
  cases hinner.symm.trans ht'
  exact respects_decode harr

theorem required_list (h : G.ValueAlike s key (fields.get? key) (fields'.get? key))
    (hblank : G.blank? s key = none) (hinner : G.inner? s key = some t) :
    (fields'.required key fun value => do (← value.list?).mapM (G.decode t))
      = (fields.required key fun value => do (← value.list?).mapM (G.decode t)) := by
  refine h.required_eq hblank fun t' ht' => ?_
  cases hinner.symm.trans ht'
  exact respects_list t

theorem items_eq (h : G.ValueAlike s key (fields.get? key) (fields'.get? key))
    (hblank : ∀ value, G.blank? s key = some value → value = .arr [])
    (hinner : G.inner? s key = some t) :
    fields'.items key (G.decode t) = fields.items key (G.decode t) := by
  refine h.withDefault_eq (fun value hvalue => ?_) fun t' ht' => ?_
  · rw [hblank value hvalue]
    rfl
  · cases hinner.symm.trans ht'
    exact respects_list t

end ValueAlike

theorem isOnce_eq {keys : List String} (h : ∀ key ∈ keys, G.MemberAlike s fields fields' key) :
    fields'.isOnce keys = fields.isOnce keys := by
  rw [Bool.eq_iff_iff, Fields.isOnce_iff, Fields.isOnce_iff]
  exact forall₂_congr fun key hkey => (h key hkey).once_iff

/-- Nodes with the same keys whatever their members. -/
theorem fieldsOnce?_bind_eq {keys : List String} {read : Fields → Option α}
    (h : ∀ key ∈ keys, G.MemberAlike s fields fields' key)
    (hread : (∀ key ∈ keys, G.ValueAlike s key (fields.get? key) (fields'.get? key)) →
      read fields' = read fields) :
    (fieldsOnce? keys (.obj fields') >>= read) = (fieldsOnce? keys (.obj fields) >>= read) := by
  simp only [fieldsOnce?, fields?, Option.bind_eq_bind, Option.bind_some, isOnce_eq h]
  cases honce : fields.isOnce keys with
  | false => rfl
  | true => exact hread fun key hkey => (h key hkey).value (Fields.isOnce_iff.mp honce key hkey)

end Grammar

namespace Fields

/-- The keys a tagged node is asked for: the tag, and those that the kind
has. -/
def taggedKeys (fields : Fields) (form : TagForm) (key : String) (tags : List String)
    (fieldNames : String → List String) : List String :=
  key :: (fields.required key (form.tag? tags)).elim [] fieldNames

end Fields

namespace Grammar

variable {σ α : Type} {G : Grammar σ} {s : σ} {key : String} {fields fields' : Fields}
  {form : TagForm} {tags : List String} {fieldNames : String → List String}

theorem tag?_eq_none (hrepeated : ¬ fields.times key ≤ 1) :
    fields.tag? form key tags fieldNames = none := by
  unfold Fields.tag?
  cases fields.required key (form.tag? tags) with
  | none => rfl
  | some tag =>
      refine if_neg fun honce => hrepeated ?_
      exact Fields.isOnce_iff.mp honce key List.mem_cons_self

/-- Nodes with keys that depend on their tag. -/
theorem tag?_alike
    (h : ∀ k ∈ fields.taggedKeys form key tags fieldNames, G.MemberAlike s fields fields' k)
    (hblank : G.blank? s key = none) :
    (fields.tag? form key tags fieldNames = none ∧ fields'.tag? form key tags fieldNames = none)
      ∨ ∃ tag, fields.tag? form key tags fieldNames = some tag
        ∧ fields'.tag? form key tags fieldNames = some tag
        ∧ ∀ k ∈ fieldNames tag, G.ValueAlike s k (fields.get? k) (fields'.get? k) := by
  have hkey := h key List.mem_cons_self
  by_cases honce : fields.times key ≤ 1
  · have htag : fields'.required key (form.tag? tags) = fields.required key (form.tag? tags) :=
      (hkey.value honce).required_scalar hblank (isScalar_tag? form tags)
    unfold Fields.tag?
    rw [htag]
    cases hrequired : fields.required key (form.tag? tags) with
    | none => exact Or.inl ⟨rfl, rfl⟩
    | some tag =>
        rw [Fields.taggedKeys, hrequired, Option.elim_some] at h
        simp only [Option.bind_eq_bind, Option.bind_some, isOnce_eq h]
        cases hall : fields.isOnce (key :: fieldNames tag) with
        | false => exact Or.inl ⟨rfl, rfl⟩
        | true =>
            refine Or.inr ⟨tag, rfl, rfl, fun k hk => ?_⟩
            have hmem := List.mem_cons_of_mem key hk
            exact (h k hmem).value (Fields.isOnce_iff.mp hall k hmem)
  · exact Or.inl ⟨tag?_eq_none honce, tag?_eq_none (mt hkey.once_iff.mp honce)⟩

end Grammar

/-! ## Members as they are written -/

theorem Fields.optional_ofString? {fields : Fields} {key : String} {value : Option String}
    (h : fields.get? key = some (.ofString? value)) : fields.optional key string? = some value := by
  rw [optional, h]
  cases value <;> rfl

theorem mapM_map_eq_some {α : Type} {encode : α → Json} {decode : Json → Option α}
    (h : ∀ a, decode (encode a) = some a) : ∀ l : List α, (l.map encode).mapM decode = some l
  | [] => rfl
  | a :: l => by
      rw [List.map_cons, List.mapM_cons, h a, mapM_map_eq_some h l]
      rfl

end FxmlCodegen.Json
