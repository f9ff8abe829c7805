import FxmlCodegen.Emit.Resource

/-!
# Where a resource path leads

A path leads from the top down, one segment at a time: an empty segment
and `.` stay where they are, `..` goes back one directory and stays at the
top, and any other segment is a directory to enter (`follow`). To make a
resource path absolute takes only some of these steps. `..` segments are
worked off at the front alone, and only while another segment follows;
later ones are kept, and what is empty or `.` is dropped wherever it is.

All the same the absolute path leads where the value leads from the package
of its controller (`destination_segments`): climbing goes back in a package
that holds no `..` of its own (`foldl_follow_climb`), and the dropped
segments lead nowhere (`foldl_follow_filter`). An absolute path is in a
form that nothing more is done to (`normalize_absolute`).
-/

namespace FxmlCodegen.Resource

/-! ## Following a path -/

/-- The directory one segment leads to, as its segments from the top. -/
def follow (dir : List String) (segment : String) : List String :=
  if segment = "" ∨ segment = "." then dir
  else if segment = ".." then dir.dropLast
  else dir ++ [segment]

/-- Where the segments lead from the top. -/
def destination (segments : List String) : List String := segments.foldl follow []

/-- A segment that is a directory to enter. -/
def IsPlain (segment : String) : Prop := segment ≠ "" ∧ segment ≠ "." ∧ segment ≠ ".."

theorem foldl_follow_of_plain {segments : List String} (h : ∀ s ∈ segments, IsPlain s)
    (dir : List String) : segments.foldl follow dir = dir ++ segments := by
  induction segments generalizing dir with
  | nil => rw [List.foldl_nil, List.append_nil]
  | cons segment segments ih =>
      rw [List.forall_mem_cons] at h
      obtain ⟨⟨hempty, hdot, hup⟩, hrest⟩ := h
      have hstep : follow dir segment = dir ++ [segment] := by simp [follow, hempty, hdot, hup]
      rw [List.foldl_cons, hstep, ih hrest, List.append_assoc, List.singleton_append]

/-- Segments that do not stay where they are. -/
def leads (segment : String) : Bool := segment != "" && segment != "."

theorem leads_iff {segment : String} : leads segment = true ↔ segment ≠ "" ∧ segment ≠ "." := by
  simp [leads]

theorem foldl_follow_filter (segments dir : List String) :
    (segments.filter leads).foldl follow dir = segments.foldl follow dir := by
  induction segments generalizing dir with
  | nil => rfl
  | cons segment segments ih =>
      rw [List.filter_cons, List.foldl_cons]
      split
      · rw [List.foldl_cons, ih]
      · rename_i hstays
        have hdir : follow dir segment = dir := by
          rw [leads_iff, ← not_or, Decidable.not_not] at hstays
          rw [follow, if_pos hstays]
        rw [hdir, ih]

theorem foldl_follow_climb (base relative : List String) :
    (climb base relative).2.foldl follow (climb base relative).1 = relative.foldl follow base := by
  fun_induction climb base relative with
  | case1 base segment rest ih =>
    -- To follow the `..` that is worked off is to drop the last segment of the base.
    rw [ih]
    rfl
  | case2 => rfl

/-! ## The segments of the absolute path -/

/-- The value without the `@` in front. -/
def unmarked (value : String) : String :=
  match value.toList with
  | '@' :: rest => String.ofList rest
  | _ => value

theorem dropStart?_getD (value : String) :
    (Text.dropStart? "@" value).getD value = unmarked value := by
  unfold unmarked
  split
  · rename_i rest hvalue
    have hmarked : value = "@" ++ String.ofList rest := by
      simp [← String.toList_inj, hvalue]
    rw [Text.dropStart?_eq_some.mpr hmarked, Option.getD_some]
  · rename_i hvalue
    cases hmarked : Text.dropStart? "@" value with
    | none => rfl
    | some rest =>
        rw [Text.dropStart?_eq_some] at hmarked
        exact (hvalue rest.toList (by rw [hmarked, String.toList_append]; rfl)).elim

/-- The segments that are joined to the absolute path of a resource. -/
def segments (controller : Option String) (value : String) : List String :=
  let (base, relative) := climb (packageOf controller) (Text.split '/' (unmarked value))
  base ++ relative.filter leads

/-- The absolute path with these segments. -/
def absolute (segments : List String) : String := "/" ++ "/".intercalate segments

theorem normalize_eq (controller : Option String) (value : String) :
    normalize controller value = absolute (segments controller value) := by
  rw [normalize, dropStart?_getD]
  rfl

theorem climb_fst_subset (base relative : List String) : (climb base relative).1 ⊆ base := by
  fun_induction climb base relative with
  | case1 base segment rest ih => exact List.Subset.trans ih base.dropLast_subset
  | case2 base relative => exact List.Subset.refl base

theorem climb_snd_subset (base relative : List String) : (climb base relative).2 ⊆ relative := by
  fun_induction climb base relative with
  | case1 base segment rest ih => exact List.Subset.trans ih (List.subset_cons_self ".." _)
  | case2 base relative => exact List.Subset.refl relative

/-- The segments of a package are what stands between the dots of a name,
so none of them is a dot or two. -/
theorem packageOf_plain {controller : Option String} :
    ∀ s ∈ packageOf controller,
      IsPlain s ∧ ∃ name ∈ controller, ∀ c ∈ s.toList, c ∈ name.toList := by
  intro s hs
  cases controller with
  | none => cases hs
  | some name =>
      have hs := List.dropLast_subset _ hs
      rw [List.mem_filter, bne_iff_ne] at hs
      have hdot := Text.not_mem_of_mem_split hs.1
      refine ⟨⟨hs.2, ?_, ?_⟩, name, rfl, fun c hc => Text.mem_of_mem_split hs.1 hc⟩
      · rintro rfl
        simp at hdot
      · rintro rfl
        simp at hdot

/-- What leads somewhere and can stand between slashes. -/
def IsSegment (segment : String) : Prop := leads segment = true ∧ '/' ∉ segment.toList

theorem isSegment_segments {controller : Option String}
    (hcontroller : ∀ name ∈ controller, '/' ∉ name.toList) (value : String) :
    ∀ s ∈ segments controller value, IsSegment s := by
  intro s hs
  rcases List.mem_append.mp hs with hbase | hrelative
  · obtain ⟨⟨hempty, hdot, -⟩, name, hname, hchars⟩ :=
      packageOf_plain s (climb_fst_subset _ _ hbase)
    exact ⟨leads_iff.mpr ⟨hempty, hdot⟩, fun hslash => hcontroller name hname (hchars '/' hslash)⟩
  · rw [List.mem_filter] at hrelative
    exact ⟨hrelative.2, Text.not_mem_of_mem_split (climb_snd_subset _ _ hrelative.1)⟩

/-- The absolute path leads where the relative one does from the package. -/
theorem destination_segments (controller : Option String) (value : String) :
    destination (segments controller value)
      = destination (packageOf controller ++ Text.split '/' (unmarked value)) := by
  -- A package leads to itself, and so does what climbing leaves of it.
  have hpackage : ∀ s ∈ packageOf controller, IsPlain s := fun s hs => (packageOf_plain s hs).1
  have hbase := fun s hs => hpackage s
    (climb_fst_subset (packageOf controller) (Text.split '/' (unmarked value)) hs)
  calc destination (segments controller value)
      = (climb (packageOf controller) (Text.split '/' (unmarked value))).2.foldl follow
          (climb (packageOf controller) (Text.split '/' (unmarked value))).1 := by
        rw [destination, segments, List.foldl_append, foldl_follow_filter,
          foldl_follow_of_plain hbase, List.nil_append]
    _ = (Text.split '/' (unmarked value)).foldl follow (packageOf controller) :=
        foldl_follow_climb _ _
    _ = destination (packageOf controller ++ Text.split '/' (unmarked value)) := by
        rw [destination, List.foldl_append, foldl_follow_of_plain hpackage, List.nil_append]

/-! ## The text of the absolute path -/

theorem split_intercalate {segments : List String} (hne : segments ≠ [])
    (h : ∀ s ∈ segments, IsSegment s) : Text.split '/' ("/".intercalate segments) = segments := by
  have hparts : ∀ part ∈ segments.map String.toList, '/' ∉ part := by
    intro part hpart
    obtain ⟨s, hs, rfl⟩ := List.mem_map.mp hpart
    exact (h s hs).2
  have hchars : ("/".intercalate segments).toList
      = ['/'].intercalate (segments.map String.toList) := String.toList_intercalate
  rw [Text.split, hchars, Text.splitList_intercalate (by simpa using hne) hparts, List.map_map]
  simp [Function.comp_def]

/-- The parts of the path that lead somewhere are its segments. The path
that has none is the slash alone, with one empty part behind it. -/
theorem filter_split_intercalate {segments : List String} (h : ∀ s ∈ segments, IsSegment s) :
    (Text.split '/' ("/".intercalate segments)).filter leads = segments := by
  by_cases hne : segments = []
  · subst hne
    rfl
  · rw [split_intercalate hne h, List.filter_eq_self]
    exact fun s hs => (h s hs).1

/-- Nothing more is done to an absolute path. -/
theorem normalize_absolute {segments : List String} (h : ∀ s ∈ segments, IsSegment s) :
    normalize none (absolute segments) = absolute segments := by
  have hunmarked : unmarked (absolute segments) = absolute segments := by
    simp [unmarked, absolute]
  have hsplit : Text.split '/' (absolute segments)
      = "" :: Text.split '/' ("/".intercalate segments) := by
    simp [Text.split, absolute, Text.splitList]
  have hclimb : ∀ rest, climb [] ("" :: rest) = ([], "" :: rest) := fun rest => by simp [climb]
  have hsegments : Resource.segments none (absolute segments) = segments := by
    rw [Resource.segments, hunmarked, hsplit, packageOf, hclimb]
    exact filter_split_intercalate h
  rw [normalize_eq, hsegments]

/-- Slashes in a text none of whose parts is empty stand apart, also from
one put in front. -/
theorem slashes_apart {cs : List Char} (h : [] ∉ Text.splitList '/' cs) :
    ¬ ['/', '/'] <:+: '/' :: cs ∧ cs.getLast? ≠ some '/' := by
  constructor
  · rintro ⟨before, after, heq⟩
    apply h
    cases before with
    | nil =>
        cases heq
        simp [Text.splitList]
    | cons c before =>
        obtain ⟨-, rfl⟩ := List.cons.inj heq
        simp [Text.splitList_append, Text.splitList]
  · intro hlast
    apply h
    obtain ⟨before, rfl⟩ := List.getLast?_eq_some_iff.mp hlast
    rw [Text.splitList_append]
    simp [Text.splitList]

/-- An absolute path is a slash, or its segments each behind a slash. -/
theorem absolute_shape {segments : List String} (h : ∀ s ∈ segments, IsSegment s) :
    ("/".intercalate segments = ""
        ∨ ∀ s ∈ Text.split '/' ("/".intercalate segments), s ≠ "" ∧ s ≠ ".")
      ∧ ¬ ['/', '/'] <:+: (absolute segments).toList
      ∧ ((absolute segments).toList.getLast? = some '/' → "/".intercalate segments = "") := by
  by_cases hne : segments = []
  · subst hne
    exact ⟨.inl rfl, by decide, fun _ => rfl⟩
  · have hsplit := split_intercalate hne h
    have hparts : [] ∉ Text.splitList '/' ("/".intercalate segments).toList := by
      intro hempty
      have hmem : "" ∈ Text.split '/' ("/".intercalate segments) := List.mem_map_of_mem hempty
      rw [hsplit] at hmem
      exact (leads_iff.mp (h "" hmem).1).1 rfl
    obtain ⟨hdouble, hlast⟩ := slashes_apart hparts
    have htext : (absolute segments).toList = '/' :: ("/".intercalate segments).toList := by
      simp [absolute]
    refine ⟨.inr fun s hs => ?_, htext ▸ hdouble, fun hslash => ?_⟩
    · rw [hsplit] at hs
      exact leads_iff.mp (h s hs).1
    · rw [htext, List.getLast?_cons] at hslash
      cases hchars : ("/".intercalate segments).toList.getLast? with
      | none => exact String.toList_eq_nil_iff.mp (List.getLast?_eq_none_iff.mp hchars)
      | some c =>
          rw [hchars] at hslash
          exact (hlast (hchars.trans hslash)).elim

/-- A resource path is made absolute without changing where it leads from
the package of its controller. -/
theorem normalize_leadsAlike (controller : Option String) (value : String)
    (hcontroller : ∀ name ∈ controller, '/' ∉ name.toList) :
    ∃ rest, normalize controller value = "/" ++ rest
      ∧ (rest = "" ∨ ∀ s ∈ Text.split '/' rest, s ≠ "" ∧ s ≠ ".")
      ∧ ¬ ['/', '/'] <:+: ("/" ++ rest).toList
      ∧ (("/" ++ rest).toList.getLast? = some '/' → rest = "")
      ∧ destination (Text.split '/' rest)
        = destination ((controller.elim [] fun name =>
            ((Text.split '.' name).filter (· != "")).dropLast) ++ Text.split '/' (unmarked value))
      ∧ normalize none ("/" ++ rest) = "/" ++ rest := by
  have hsegments := isSegment_segments hcontroller value
  obtain ⟨hparts, hdouble, hlast⟩ := absolute_shape hsegments
  refine ⟨"/".intercalate (segments controller value), normalize_eq controller value, hparts,
    hdouble, hlast, ?_, normalize_absolute hsegments⟩
  have hpackage : packageOf controller
      = controller.elim [] fun name => ((Text.split '.' name).filter (· != "")).dropLast := by
    cases controller with
    | none => rfl
    | some name => rfl
  calc destination (Text.split '/' ("/".intercalate (segments controller value)))
      = destination (segments controller value) := by
        rw [destination, ← foldl_follow_filter, filter_split_intercalate hsegments, destination]
    _ = destination (packageOf controller ++ Text.split '/' (unmarked value)) :=
        destination_segments controller value
    _ = _ := by rw [hpackage]

/-- Climbs out of a package of two segments by three, and goes back once
more further on. -/
theorem normalize_leadsAlike_climbing :
    (∀ name ∈ some "com..example.Main", '/' ∉ name.toList)
      ∧ normalize (some "com..example.Main") "@../../..//./img/../x/" = "/img/../x"
      ∧ destination ["img", "..", "x"]
        = destination ["com", "example", "..", "..", "..", "", ".", "img", "..", "x", ""]
      ∧ normalize none "/img/../x" = "/img/../x" := by
  have hcontroller : ∀ name ∈ some "com..example.Main", '/' ∉ name.toList := by
    rintro name ⟨⟩
    decide
  obtain ⟨rest, hpath, -, -, -, hleads, hfixed⟩ :=
    normalize_leadsAlike (some "com..example.Main") "@../../..//./img/../x/" hcontroller
  have hvalue : normalize (some "com..example.Main") "@../../..//./img/../x/"
      = "/" ++ "img/../x" := by
    decide +kernel
  obtain rfl : rest = "img/../x" := (String.append_right_inj "/").mp (hpath.symm.trans hvalue)
  exact ⟨hcontroller, hvalue, hleads, hfixed⟩

end FxmlCodegen.Resource
