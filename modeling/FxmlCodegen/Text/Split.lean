/-!
# Cutting text at a character

Splitting at every occurrence of a separator, cutting at its last
occurrence, and the lines of a text. Dotted names, resource paths, file
names and printed methods are all taken apart with these; file names are
bytes, so lists of anything can be cut.
-/

namespace FxmlCodegen.Text

variable {α : Type} [DecidableEq α]

/-! ## At every occurrence -/

/-- The parts between separators; one more part than separators. -/
def splitList (sep : α) : List α → List (List α)
  | [] => [[]]
  | c :: cs =>
    if c = sep then
      [] :: splitList sep cs
    else
      match splitList sep cs with
      | [] => [[c]]
      | part :: parts => (c :: part) :: parts

def split (sep : Char) (s : String) : List String :=
  (splitList sep s.toList).map String.ofList

/-- The parts of a text with the separators between them are the text. -/
theorem splitList_eq_cons (sep : α) : ∀ cs : List α,
    ∃ first rest, splitList sep cs = first :: rest ∧ cs = first ++ rest.flatMap (sep :: ·)
  | [] => ⟨[], [], rfl, rfl⟩
  | c :: cs => by
      obtain ⟨first, rest, hsplit, hcs⟩ := splitList_eq_cons sep cs
      by_cases hc : c = sep
      · refine ⟨[], first :: rest, by rw [splitList, if_pos hc, hsplit], ?_⟩
        rw [hc, List.flatMap_cons, List.nil_append, List.cons_append, ← hcs]
      · refine ⟨c :: first, rest, by rw [splitList, if_neg hc, hsplit], ?_⟩
        rw [List.cons_append, ← hcs]

theorem splitList_append (sep : α) (cs cs' : List α) :
    splitList sep (cs ++ sep :: cs') = splitList sep cs ++ splitList sep cs' := by
  induction cs with
  | nil => simp [splitList]
  | cons c cs ih =>
      obtain ⟨first, rest, hsplit, -⟩ := splitList_eq_cons sep cs
      rw [hsplit] at ih
      by_cases hc : c = sep
      · rw [List.cons_append, splitList, splitList, if_pos hc, if_pos hc, ih, hsplit]
        rfl
      · rw [List.cons_append, splitList, splitList, if_neg hc, if_neg hc, ih, hsplit]
        rfl

theorem splitList_of_not_mem {sep : α} {cs : List α} (h : sep ∉ cs) :
    splitList sep cs = [cs] := by
  induction cs with
  | nil => rfl
  | cons c cs ih =>
      rw [List.mem_cons, not_or] at h
      rw [splitList, if_neg (Ne.symm h.1), ih h.2]

/-- A part has no separator in it. -/
theorem not_mem_of_mem_splitList {sep : α} {cs : List α} :
    ∀ part ∈ splitList sep cs, sep ∉ part := by
  induction cs with
  | nil => simp [splitList]
  | cons c cs ih =>
      obtain ⟨first, rest, hsplit, -⟩ := splitList_eq_cons sep cs
      rw [splitList]
      rw [hsplit, List.forall_mem_cons] at ih
      split
      · rw [hsplit, List.forall_mem_cons, List.forall_mem_cons]
        exact ⟨List.not_mem_nil, ih⟩
      · rename_i hc
        rw [hsplit, List.forall_mem_cons, List.mem_cons, not_or]
        exact ⟨⟨Ne.symm hc, ih.1⟩, ih.2⟩

/-- Parts that are joined with separators are the parts of what comes of
it. -/
theorem splitList_intercalate {sep : α} :
    ∀ {parts : List (List α)}, parts ≠ [] → (∀ part ∈ parts, sep ∉ part) →
      splitList sep ([sep].intercalate parts) = parts
  | [], hne, _ => (hne rfl).elim
  | [part], _, h => by
      rw [List.intercalate_singleton]
      exact splitList_of_not_mem (h part List.mem_cons_self)
  | part :: next :: parts, _, h => by
      rw [List.forall_mem_cons] at h
      rw [List.intercalate_cons_cons, List.append_assoc, List.singleton_append, splitList_append,
        splitList_of_not_mem h.1, splitList_intercalate (List.cons_ne_nil next parts) h.2]
      rfl

/-- A text is its parts with the separators between them. -/
theorem intercalate_splitList (sep : α) (cs : List α) :
    [sep].intercalate (splitList sep cs) = cs := by
  induction cs with
  | nil => rfl
  | cons c cs ih =>
      obtain ⟨first, rest, hsplit, -⟩ := splitList_eq_cons sep cs
      rw [hsplit] at ih
      rw [splitList, hsplit]
      split
      · rename_i hc
        rw [List.intercalate_cons_cons, ih, hc]
        rfl
      · cases rest with
        | nil => simpa using ih
        | cons next rest =>
            rw [List.intercalate_cons_cons] at ih ⊢
            rw [← ih]
            rfl

theorem not_mem_of_mem_split {sep : Char} {s part : String} (hpart : part ∈ split sep s) :
    sep ∉ part.toList := by
  obtain ⟨cs, hcs, rfl⟩ := List.mem_map.mp hpart
  rw [String.toList_ofList]
  exact not_mem_of_mem_splitList cs hcs

theorem mem_of_mem_split {sep c : Char} {s part : String} (hpart : part ∈ split sep s)
    (hc : c ∈ part.toList) : c ∈ s.toList := by
  obtain ⟨first, rest, hsplit, hs⟩ := splitList_eq_cons sep s.toList
  obtain ⟨cs, hcs, rfl⟩ := List.mem_map.mp hpart
  rw [String.toList_ofList] at hc
  rw [hs, List.mem_append, List.mem_flatMap]
  rw [hsplit, List.mem_cons] at hcs
  rcases hcs with rfl | hcs
  · exact .inl hc
  · exact .inr ⟨cs, hcs, List.mem_cons_of_mem sep hc⟩

/-! ## At the last occurrence -/

/-- What stands before and after the last separator. -/
def cutLastList (sep : α) : List α → Option (List α × List α)
  | [] => none
  | c :: cs =>
    match cutLastList sep cs with
    | some (before, after) => some (c :: before, after)
    | none => if c = sep then some ([], cs) else none

def cutLast (sep : Char) (s : String) : Option (String × String) :=
  (cutLastList sep s.toList).map fun cut => (String.ofList cut.1, String.ofList cut.2)

/-- The part after the last separator, or the whole text. -/
def afterLast (sep : Char) (s : String) : String :=
  match cutLast sep s with
  | some (_, after) => after
  | none => s

/-- The part of a dotted name after its last dot: `halignment` for
`GridPane.halignment`. -/
def localName (s : String) : String := afterLast '.' s

theorem cutLastList_eq_none {sep : α} {cs : List α} :
    cutLastList sep cs = none ↔ sep ∉ cs := by
  induction cs with
  | nil => simp [cutLastList]
  | cons c cs ih =>
      rw [cutLastList, List.mem_cons, not_or, ← ih]
      cases cutLastList sep cs with
      | some cut => simp
      | none => simp [eq_comm]

theorem cutLastList_append {sep : α} {after : List α} (hafter : sep ∉ after) :
    ∀ before : List α, cutLastList sep (before ++ sep :: after) = some (before, after)
  | [] => by
      rw [List.nil_append, cutLastList, cutLastList_eq_none.mpr hafter]
      exact if_pos rfl
  | c :: before => by rw [List.cons_append, cutLastList, cutLastList_append hafter before]

theorem cutLastList_eq_some {sep : α} {cs before after : List α} :
    cutLastList sep cs = some (before, after) ↔ cs = before ++ sep :: after ∧ sep ∉ after := by
  constructor
  · intro h
    induction cs generalizing before with
    | nil => cases h
    | cons c cs ih =>
        rw [cutLastList] at h
        split at h
        · rename_i hcut
          cases h
          obtain ⟨hcs, hafter⟩ := ih hcut
          exact ⟨congrArg (c :: ·) hcs, hafter⟩
        · rename_i hcut
          split at h
          · rename_i hc
            cases h
            exact ⟨congrArg (· :: after) hc, cutLastList_eq_none.mp hcut⟩
          · cases h
  · rintro ⟨rfl, hafter⟩
    exact cutLastList_append hafter before

theorem cutLast_eq_some {sep : Char} {s before after : String} :
    cutLast sep s = some (before, after)
      ↔ s = before ++ String.singleton sep ++ after ∧ sep ∉ after.toList := by
  rw [cutLast, Option.map_eq_some_iff]
  constructor
  · rintro ⟨⟨cs, cs'⟩, hcut, ⟨⟩⟩
    obtain ⟨hs, hafter⟩ := cutLastList_eq_some.mp hcut
    rw [String.toList_ofList, ← String.toList_inj, hs]
    exact ⟨by simp, hafter⟩
  · rintro ⟨rfl, hafter⟩
    refine ⟨(before.toList, after.toList), cutLastList_eq_some.mpr ⟨by simp, hafter⟩, ?_⟩
    rw [String.ofList_toList, String.ofList_toList]

/-- What stands behind the last separator is the last part. -/
theorem getLast?_split (sep : Char) (s : String) :
    (split sep s).getLast? = some (afterLast sep s) := by
  unfold split afterLast cutLast
  rw [List.getLast?_map]
  cases hcut : cutLastList sep s.toList with
  | none =>
      rw [splitList_of_not_mem (cutLastList_eq_none.mp hcut), List.getLast?_singleton,
        Option.map_some, String.ofList_toList]
      rfl
  | some cut =>
      obtain ⟨hs, hafter⟩ := cutLastList_eq_some.mp hcut
      rw [hs, splitList_append, splitList_of_not_mem hafter, List.getLast?_concat]
      rfl

/-! ## Prefixes -/

/-- The text after `pre`, if it starts with `pre`. -/
def dropStart? (pre s : String) : Option String :=
  if pre.toList.isPrefixOf s.toList then some (String.ofList (s.toList.drop pre.length)) else none

def startsWith (pre s : String) : Bool := pre.toList.isPrefixOf s.toList

theorem startsWith_iff {pre s : String} : startsWith pre s = true ↔ ∃ rest, s = pre ++ rest := by
  rw [startsWith, List.isPrefixOf_iff_prefix]
  constructor
  · rintro ⟨tail, htail⟩
    refine ⟨String.ofList tail, ?_⟩
    rw [← String.toList_inj, String.toList_append, String.toList_ofList, htail]
  · rintro ⟨rest, rfl⟩
    rw [String.toList_append]
    exact List.prefix_append _ _

theorem dropStart?_eq_some {pre s rest : String} :
    dropStart? pre s = some rest ↔ s = pre ++ rest := by
  unfold dropStart?
  constructor
  · intro h
    split at h
    · rename_i hpre
      obtain ⟨tail, htail⟩ := List.isPrefixOf_iff_prefix.mp hpre
      cases h
      rw [← String.toList_inj, String.toList_append, String.toList_ofList, ← htail,
        ← String.length_toList, List.drop_left]
    · cases h
  · rintro rfl
    rw [String.toList_append, if_pos (List.isPrefixOf_iff_prefix.mpr (List.prefix_append _ _)),
      ← String.length_toList, List.drop_left, String.ofList_toList]

/-! ## Lines -/

/-- A line without the carriage return that ends it, if one does. -/
def dropReturn (line : List Char) : List Char :=
  if line.getLast? = some '\r' then line.dropLast else line

/-- Parts between line feeds as lines: all but the last were ended by a
line feed, and the last counts only if it is not empty. -/
def partsToLines : List (List Char) → List (List Char)
  | [] => []
  | [rest] => if rest.isEmpty then [] else [rest]
  | line :: parts => dropReturn line :: partsToLines parts

/-- The lines of a text, each without its line end. -/
def lines (s : String) : List String :=
  (partsToLines (splitList '\n' s.toList)).map String.ofList

end FxmlCodegen.Text
