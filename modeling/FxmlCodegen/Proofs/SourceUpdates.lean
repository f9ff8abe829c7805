import FxmlCodegen.Java.Sources
import Mathlib.Data.List.Nodup

/-!
# Updates of source files

Compiling documents changes files that are there and makes none. Such
updates keep the types that have a file, and their order
(`keys_applyAll`). Updates of different types commute, so a list of
updates with one for each type comes to the same in any order
(`applyAll_perm`).

In general the file of a type sees the updates of its own type, one after
the other, and no others (`changes`, `get?_applyAll`). Where these leave
every file as it is, nothing changes at all (`applyAll_eq_self`).
-/

namespace FxmlCodegen.Java.Sources

/-- A change to the file of a type. -/
structure Update where
  type : String
  change : SourceFile → SourceFile

def apply (s : Sources) (u : Update) : Sources := s.modify u.type u.change

def applyAll (s : Sources) (us : List Update) : Sources := us.foldl apply s

theorem get?_apply (s : Sources) (u : Update) (type : String) :
    (s.apply u).get? type
      = (s.get? type).map fun file => if u.type = type then u.change file else file := by
  unfold apply modify
  by_cases heq : u.type = type
  · cases hfile : s.get? u.type with
    | none => simp [← heq, hfile]
    | some file => simp [← heq, hfile]
  · have hid : ((fun file => if u.type = type then u.change file else file)
        : SourceFile → SourceFile) = id := by
      funext file
      exact if_neg heq
    rw [hid, Option.map_id]
    split
    · exact Table.get?_put_ne _ (Ne.symm heq) _
    · rfl

theorem keys_apply (s : Sources) (u : Update) : (s.apply u).keys = s.keys := by
  unfold apply modify
  split
  · rename_i file hfile
    have hkey : u.type ∈ s.keys := by
      rw [← Table.isSome_get?, hfile]
      rfl
    rw [Table.keys_put, if_pos hkey]
  · rfl

theorem apply_comm (s : Sources) {u v : Update} (hne : u.type ≠ v.type) :
    (s.apply u).apply v = (s.apply v).apply u := by
  refine Table.ext_get? (by simp only [keys_apply]) fun type => ?_
  simp only [get?_apply, Option.map_map]
  congr 1
  funext file
  by_cases heq : u.type = type
  · have hother : v.type ≠ type := fun h => hne (heq.trans h.symm)
    simp [heq, hother]
  · simp [heq]

theorem keys_applyAll (us : List Update) (s : Sources) : (s.applyAll us).keys = s.keys := by
  induction us generalizing s with
  | nil => rfl
  | cons u us ih => exact (ih (s.apply u)).trans (s.keys_apply u)

theorem isSome_get?_apply (s : Sources) (u : Update) (type : String) :
    ((s.apply u).get? type).isSome = (s.get? type).isSome := by
  rw [get?_apply, Option.isSome_map]

theorem isSome_get?_applyAll (us : List Update) (s : Sources) (type : String) :
    ((s.applyAll us).get? type).isSome = (s.get? type).isSome := by
  rw [Bool.eq_iff_iff, Table.isSome_get?, Table.isSome_get?, keys_applyAll]

/-! ## The updates of one type -/

/-- What the updates make of the file of a type. -/
def changes (us : List Update) (type : String) (file : SourceFile) : SourceFile :=
  (us.filter (·.type = type)).foldl (fun file u => u.change file) file

theorem changes_cons_self (u : Update) (us : List Update) (file : SourceFile) :
    changes (u :: us) u.type file = changes us u.type (u.change file) := by
  simp [changes]

theorem changes_cons_ne {u : Update} {type : String} (hne : u.type ≠ type) (us : List Update)
    (file : SourceFile) : changes (u :: us) type file = changes us type file := by
  simp [changes, hne]

theorem get?_applyAll (us : List Update) (s : Sources) (type : String) :
    (s.applyAll us).get? type = (s.get? type).map (changes us type) := by
  induction us generalizing s with
  | nil => exact (congrFun Option.map_id _).symm
  | cons u us ih =>
      show ((s.apply u).applyAll us).get? type = _
      rw [ih, get?_apply, Option.map_map]
      congr 1
      funext file
      by_cases heq : u.type = type
      · subst heq
        simp [changes_cons_self]
      · simp [changes_cons_ne heq, heq]

/-- Updates that come to nothing for every file change nothing. -/
theorem applyAll_eq_self {us : List Update} {s : Sources}
    (hfix : ∀ type file, s.get? type = some file → changes us type file = file) :
    s.applyAll us = s := by
  refine Table.ext_get? (keys_applyAll us s) fun type => ?_
  rw [get?_applyAll]
  cases hfile : s.get? type with
  | none => rfl
  | some file => rw [Option.map_some, hfix type file hfile]

/-- Updates whose changes to each type are settled after once have
nothing left to do the second time. -/
theorem applyAll_applyAll {us : List Update}
    (hidem : ∀ type file, changes us type (changes us type file) = changes us type file)
    (s : Sources) : (s.applyAll us).applyAll us = s.applyAll us := by
  refine applyAll_eq_self fun type file hfile => ?_
  rw [get?_applyAll, Option.map_eq_some_iff] at hfile
  obtain ⟨file, -, rfl⟩ := hfile
  exact hidem type file

/-! ## Any order -/

/-- With one update for each type, order does not matter. -/
theorem applyAll_perm {us vs : List Update} (hperm : us.Perm vs)
    (htypes : (us.map Update.type).Nodup) (s : Sources) : s.applyAll us = s.applyAll vs := by
  refine hperm.foldl_eq' (fun u hu v hv s => ?_) s
  by_cases htype : u.type = v.type
  · rw [List.inj_on_of_nodup_map htypes hu hv htype]
  · exact s.apply_comm htype

end FxmlCodegen.Java.Sources
