/-!
# Tables

Values by name, in the order in which the names first came. Putting a
value under a name that is there replaces it in place, so updates do not
reorder a table. No name is there twice, and so a table is given by its
names in order and the value of each (`Table.ext_get?`).
-/

namespace FxmlCodegen

@[ext]
structure Table (α : Type) where
  entries : List (String × α) := []
  nodup : (entries.map (·.1)).Nodup := by exact List.nodup_nil
  deriving DecidableEq

namespace Table

variable {α : Type}

def empty : Table α := {}

instance : Inhabited (Table α) := ⟨empty⟩

def get? (t : Table α) (key : String) : Option α := t.entries.lookup key

def putEntry (key : String) (value : α) : List (String × α) → List (String × α)
  | [] => [(key, value)]
  | (k, v) :: entries =>
    if key == k then (k, value) :: entries else (k, v) :: putEntry key value entries

/-- A new key comes last. -/
theorem map_putEntry (key : String) (value : α) (entries : List (String × α)) :
    (putEntry key value entries).map (·.1)
      = if key ∈ entries.map (·.1) then entries.map (·.1) else entries.map (·.1) ++ [key] := by
  induction entries with
  | nil => rfl
  | cons entry entries ih =>
      obtain ⟨k, v⟩ := entry
      by_cases hkey : key = k
      · simp [putEntry, hkey]
      · simp only [putEntry, beq_false_of_ne hkey, Bool.false_eq_true, if_false, List.map_cons, ih,
          List.mem_cons, hkey, false_or, List.cons_append]
        exact apply_ite (List.cons k) _ _ _

theorem nodup_putEntry {entries : List (String × α)} (h : (entries.map (·.1)).Nodup)
    (key : String) (value : α) : ((putEntry key value entries).map (·.1)).Nodup := by
  rw [map_putEntry]
  split
  · exact h
  · rename_i hnew
    rw [List.nodup_append]
    refine ⟨h, List.pairwise_singleton _ _, fun a ha b hb => ?_⟩
    rw [List.mem_singleton.mp hb]
    exact fun heq => hnew (heq ▸ ha)

/-- The table with this value under the key. -/
def put (t : Table α) (key : String) (value : α) : Table α :=
  ⟨putEntry key value t.entries, nodup_putEntry t.nodup key value⟩

def keys (t : Table α) : List String := t.entries.map (·.1)

def values (t : Table α) : List α := t.entries.map (·.2)

/-! ## Reading back -/

theorem lookup_putEntry_self (key : String) (value : α) (entries : List (String × α)) :
    (putEntry key value entries).lookup key = some value := by
  induction entries with
  | nil => simp [putEntry]
  | cons entry entries ih =>
      obtain ⟨k, v⟩ := entry
      cases h : key == k with
      | true => simp [putEntry, List.lookup_cons, h]
      | false => simp [putEntry, List.lookup_cons, h, ih]

theorem lookup_putEntry_ne {key other : String} (hne : other ≠ key) (value : α)
    (entries : List (String × α)) :
    (putEntry key value entries).lookup other = entries.lookup other := by
  have hbeq : (other == key) = false := beq_false_of_ne hne
  induction entries with
  | nil => simp [putEntry, List.lookup_cons, hbeq]
  | cons entry entries ih =>
      obtain ⟨k, v⟩ := entry
      cases h : key == k with
      | true =>
          obtain rfl := eq_of_beq h
          simp [putEntry, List.lookup_cons, hbeq]
      | false => simp [putEntry, List.lookup_cons, h, ih]

@[simp] theorem get?_put_self (t : Table α) (key : String) (value : α) :
    (t.put key value).get? key = some value :=
  lookup_putEntry_self key value t.entries

theorem get?_put_ne (t : Table α) {key other : String} (hne : other ≠ key) (value : α) :
    (t.put key value).get? other = t.get? other :=
  lookup_putEntry_ne hne value t.entries

theorem get?_put (t : Table α) (key other : String) (value : α) :
    (t.put key value).get? other = (if key = other then some value else none).or (t.get? other) := by
  by_cases hkey : key = other
  · simp [hkey]
  · simp [hkey, t.get?_put_ne (Ne.symm hkey)]

/-! ## Entries -/

theorem mem_entries_of_get? {t : Table α} {key : String} {value : α} (h : t.get? key = some value) :
    (key, value) ∈ t.entries := by
  obtain ⟨before, after, hentries, -⟩ := List.lookup_eq_some_iff.mp h
  rw [hentries]
  exact List.mem_append_right before List.mem_cons_self

theorem get?_of_mem {t : Table α} {key : String} {value : α} (h : (key, value) ∈ t.entries) :
    t.get? key = some value := by
  obtain ⟨before, after, hentries⟩ := List.append_of_mem h
  have hnodup := t.nodup
  rw [hentries, List.map_append, List.map_cons, List.nodup_append] at hnodup
  rw [get?, List.lookup_eq_some_iff]
  refine ⟨before, after, hentries, fun entry hentry => ?_⟩
  have hne := hnodup.2.2 entry.1 (List.mem_map_of_mem hentry) key List.mem_cons_self
  exact bne_iff_ne.mpr (Ne.symm hne)

/-- A table is given by its keys in order and the value of each. -/
theorem ext_get? {t t' : Table α} (hkeys : t.keys = t'.keys)
    (hget : ∀ key, t.get? key = t'.get? key) : t = t' := by
  have hentries : ∀ t : Table α,
      t.entries.map (fun entry => (entry.1, some entry.2)) = t.keys.map fun key => (key, t.get? key) := by
    intro t
    rw [keys, List.map_map]
    refine List.map_congr_left fun entry hentry => ?_
    rw [Function.comp_apply, get?_of_mem hentry]
  have hinj : ∀ entry entry' : String × α,
      (entry.1, some entry.2) = (entry'.1, some entry'.2) → entry = entry' := by
    rintro ⟨key, value⟩ ⟨key', value'⟩ heq
    simpa using heq
  refine Table.ext ((List.map_inj_right hinj).mp ?_)
  simp only [hentries, hkeys, hget]

theorem isSome_get? (t : Table α) (key : String) : (t.get? key).isSome = true ↔ key ∈ t.keys := by
  simp only [get?, List.lookup_isSome_iff, beq_iff_eq, keys, List.mem_map, @eq_comm _ key]

theorem mem_putEntry {key : String} {value : α} {entry : String × α} {entries : List (String × α)}
    (h : entry ∈ putEntry key value entries) : entry = (key, value) ∨ entry ∈ entries := by
  induction entries with
  | nil => exact .inl (List.mem_singleton.mp h)
  | cons first entries ih =>
      obtain ⟨k, v⟩ := first
      rw [putEntry] at h
      split at h
      · rename_i hkey
        rw [eq_of_beq hkey]
        exact (List.mem_cons.mp h).imp id (List.mem_cons_of_mem _)
      · rcases List.mem_cons.mp h with rfl | h
        · exact .inr List.mem_cons_self
        · exact (ih h).imp id (List.mem_cons_of_mem _)

theorem keys_put (t : Table α) (key : String) (value : α) :
    (t.put key value).keys = if key ∈ t.keys then t.keys else t.keys ++ [key] :=
  map_putEntry key value t.entries

theorem mem_keys_put (t : Table α) (key other : String) (value : α) :
    other ∈ (t.put key value).keys ↔ other ∈ t.keys ∨ other = key := by
  rw [keys_put]
  split
  · rename_i hkey
    exact ⟨.inl, fun h => h.elim id fun heq => heq ▸ hkey⟩
  · simp

end Table

end FxmlCodegen
