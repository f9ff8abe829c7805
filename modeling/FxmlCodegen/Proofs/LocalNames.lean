import FxmlCodegen.Proofs.FreshNames

/-!
# What is left of a name

A name is made from the part of its seed behind the last dot. That part is
empty for the empty seed and for one that ends in a dot
(`Text.localName_eq_empty_iff`), and putting the first letter in another
case does not change whether it is: no letter has an empty form, and none
has a dot in it (`Text.KeepsDots`, checked on the case tables).

So a fresh name is empty exactly if nothing is left of its seed while the
empty name is free (`freshName_eq_empty_iff`). It never has a dot, and is
left whole when a name is made from it (`localName_freshName`).
-/

namespace FxmlCodegen

namespace Text

/-! ## Changing the first character -/

/-- The text with its first character in another form. -/
def overFirst (form : Char → List Char) (s : String) : String :=
  match s.toList with
  | [] => ""
  | c :: rest => String.ofList (form c ++ rest)

theorem upperFirst_eq (s : String) : upperFirst s = overFirst upperForm s := rfl

theorem lowerFirst_eq (s : String) : lowerFirst s = overFirst lowerForm s := rfl

/-- The forms of characters are not empty, and a dot is a form of the dot
only. -/
structure KeepsDots (form : Char → List Char) : Prop where
  ne_nil : ∀ c, form c ≠ []
  dot : form '.' = ['.']
  eq_dot : ∀ c, '.' ∈ form c → c = '.'

theorem toNat_of_ofNat_eq_dot {n : Nat} (h : Char.ofNat n = '.') : n = '.'.toNat := by
  by_cases hvalid : n.isValidChar
  · exact congrArg Char.toNat ((dif_pos hvalid).symm.trans h)
  · cases (dif_neg hvalid).symm.trans h

/-- For forms read from tables it is enough to look at the tables. -/
theorem keepsDots_caseForm {expansions : List (Nat × List Nat)} {runs : List CaseRun}
    (hexpansions : ∀ e ∈ expansions, e.2 ≠ [] ∧ '.'.toNat ∉ e.2)
    (hruns : ∀ r ∈ runs, '.'.toNat < r.target)
    (hdot : caseForm expansions runs '.' = ['.']) : KeepsDots (caseForm expansions runs) := by
  have hexpanded : ∀ {n : Nat} {ns : List Nat}, expansions.lookup n = some ns →
      ns ≠ [] ∧ '.'.toNat ∉ ns := by
    intro n ns hns
    obtain ⟨before, after, heq, -⟩ := List.lookup_eq_some_iff.mp hns
    exact hexpansions (n, ns) (by simp [heq])
  refine ⟨fun c => ?_, hdot, fun c hc => ?_⟩
  · unfold caseForm
    split
    · rename_i ns hns
      simpa using (hexpanded hns).1
    · split <;> simp
  · unfold caseForm at hc
    split at hc
    · rename_i ns hns
      obtain ⟨n, hn, hform⟩ := List.mem_map.mp hc
      exact ((hexpanded hns).2 (toNat_of_ofNat_eq_dot hform ▸ hn)).elim
    · split at hc
      · rename_i r hr
        have hn := toNat_of_ofNat_eq_dot (List.mem_singleton.mp hc).symm
        have hlt := hruns r (List.mem_of_find?_eq_some hr)
        unfold CaseRun.map at hn
        omega
      · exact (List.mem_singleton.mp hc).symm

theorem keepsDots_upperForm : KeepsDots upperForm :=
  keepsDots_caseForm (by decide +kernel) (by decide +kernel) (by decide +kernel)

theorem keepsDots_lowerForm : KeepsDots lowerForm :=
  keepsDots_caseForm (by decide +kernel) (by decide +kernel) (by decide +kernel)

/-! ## What is left of a name -/

theorem overFirst_eq_empty {form : Char → List Char} (hform : KeepsDots form) {s : String} :
    overFirst form s = "" ↔ s = "" := by
  unfold overFirst
  split
  · rename_i hs
    simpa using hs
  · rename_i c rest hs
    have hne : s ≠ "" := fun h => by simp [h] at hs
    simp [hne, hform.ne_nil c, ← String.toList_inj]

/-- The local part of a name is the whole of it, if there is no dot, or what
stands behind the last dot. -/
theorem localName_cases (s : String) :
    ('.' ∉ s.toList ∧ localName s = s)
      ∨ ∃ before after, s.toList = before ++ '.' :: after ∧ '.' ∉ after
        ∧ localName s = String.ofList after := by
  unfold localName afterLast cutLast
  cases hcut : cutLastList '.' s.toList with
  | none => exact Or.inl ⟨cutLastList_eq_none.mp hcut, rfl⟩
  | some cut =>
      obtain ⟨hs, hdot⟩ := cutLastList_eq_some.mp hcut
      exact Or.inr ⟨cut.1, cut.2, hs, hdot, rfl⟩

theorem dot_not_mem_localName (s : String) : '.' ∉ (localName s).toList := by
  rcases localName_cases s with ⟨hdot, heq⟩ | ⟨before, after, -, hdot, heq⟩
  · rwa [heq]
  · rwa [heq, String.toList_ofList]

/-- The local part is empty exactly if the name is, or ends in a dot. -/
theorem localName_eq_empty_iff {s : String} :
    localName s = "" ↔ ∀ c ∈ s.toList.getLast?, c = '.' := by
  rcases localName_cases s with ⟨hdot, heq⟩ | ⟨before, after, hs, hdot, heq⟩
  · rw [heq, ← String.toList_inj, String.toList_empty, ← List.getLast?_eq_none_iff]
    constructor
    · intro hnone c hc
      rw [hnone] at hc
      cases hc
    · intro hlast
      refine Option.eq_none_iff_forall_ne_some.mpr fun c hc => hdot ?_
      exact hlast c hc ▸ List.mem_of_getLast? hc
  · rw [heq, ← String.toList_inj, String.toList_ofList, String.toList_empty, hs]
    cases hlast : after.getLast? with
    | none =>
        rw [List.getLast?_eq_none_iff.mp hlast]
        simp
    | some c =>
        have hmem : c ∈ after := List.mem_of_getLast? hlast
        have hne : c ≠ '.' := fun h => hdot (h ▸ hmem)
        have hafter : after ≠ [] := List.ne_nil_of_mem hmem
        simp [List.getLast?_append, List.getLast?_cons, hlast, hne, hafter]

/-- What is behind the last dot of two names in a row is in the second, if
that is not empty. -/
theorem localName_append {s t : String} :
    localName (s ++ t) = "" ↔ localName t = "" ∧ (t = "" → localName s = "") := by
  simp only [localName_eq_empty_iff, String.toList_append, List.getLast?_append]
  cases hlast : t.toList.getLast? with
  | none =>
      have ht : t = "" := by
        rw [← String.toList_inj]
        exact List.getLast?_eq_none_iff.mp hlast
      simp [ht]
  | some c =>
      have ht : t ≠ "" := by
        rintro rfl
        cases hlast
      simp [ht]

theorem localName_overFirst {form : Char → List Char} (hform : KeepsDots form) {s : String} :
    localName (overFirst form s) = "" ↔ localName s = "" := by
  unfold overFirst
  split
  · rename_i hs
    rw [String.toList_eq_nil_iff.mp hs]
  · rename_i c rest hs
    have hfirst : (∀ x ∈ (form c).getLast?, x = '.') ↔ c = '.' := by
      constructor
      · intro hlast
        obtain ⟨x, hx⟩ := List.getLast?_isSome.mpr (hform.ne_nil c) |> Option.isSome_iff_exists.mp
        exact hform.eq_dot c (hlast x hx ▸ List.mem_of_getLast? hx)
      · rintro rfl
        simp [hform.dot]
    rw [localName_eq_empty_iff, localName_eq_empty_iff, String.toList_ofList, hs,
      List.getLast?_append, List.getLast?_cons]
    cases rest.getLast? with
    | none => simpa using hfirst
    | some x => simp

theorem localName_eq_self {s : String} (hdot : '.' ∉ s.toList) : localName s = s := by
  rw [localName, afterLast, cutLast, cutLastList_eq_none.mpr hdot]
  rfl

theorem dot_not_mem_overFirst {form : Char → List Char} (hform : KeepsDots form) {s : String}
    (hdot : '.' ∉ s.toList) : '.' ∉ (overFirst form s).toList := by
  unfold overFirst
  split
  · exact List.not_mem_nil
  · rename_i c rest hs
    rw [hs, List.mem_cons, not_or] at hdot
    rw [String.toList_ofList, List.mem_append, not_or]
    exact ⟨fun hc => hdot.1 (hform.eq_dot c hc).symm, hdot.2⟩

end Text

/-! ## Fresh names -/

theorem baseName_eq_empty_iff {seed : String} :
    baseName seed = "" ↔ Text.localName seed = "" := by
  rw [baseName, Text.lowerFirst_eq]
  exact Text.overFirst_eq_empty Text.keepsDots_lowerForm

/-- A fresh name is empty if nothing is left of the seed and the empty name
is free. -/
theorem freshName_eq_empty_iff {taken : List String} {seed : String} :
    freshName taken seed = "" ↔ baseName seed = "" ∧ "" ∉ taken := by
  obtain ⟨k, hk, hbelow⟩ := freshName_first taken seed
  constructor
  · intro hempty
    refine ⟨?_, hempty ▸ freshName_not_mem taken seed⟩
    rw [hk] at hempty
    cases k with
    | zero => exact hempty
    | succ k => exact (String.append_eq_empty_iff.mp hempty).1
  · rintro ⟨hbase, hfree⟩
    cases k with
    | zero => rw [hk, candidate, hbase]
    | succ k => exact (hfree (hbase ▸ hbelow 0 (Nat.succ_pos k))).elim

/-- A made name has no dot. -/
theorem localName_freshName (taken : List String) (seed : String) :
    Text.localName (freshName taken seed) = freshName taken seed := by
  have hbase : '.' ∉ (baseName seed).toList := by
    rw [baseName, Text.lowerFirst_eq]
    exact Text.dot_not_mem_overFirst Text.keepsDots_lowerForm (Text.dot_not_mem_localName seed)
  obtain ⟨k, hk, -⟩ := freshName_first taken seed
  rw [hk]
  refine Text.localName_eq_self ?_
  cases k with
  | zero => exact hbase
  | succ k =>
      rw [candidate, String.toList_append, List.mem_append, not_or]
      refine ⟨hbase, fun hdot => ?_⟩
      rw [Nat.toString_eq_ofList_toDigits, String.toList_ofList] at hdot
      have hdigit := Nat.isDigit_of_mem_toDigits (by decide) (by decide) hdot
      cases hdigit

end FxmlCodegen
