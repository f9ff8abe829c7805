import FxmlCodegen.Java.Printer

/-!
# The lines of a class

A method is printed by itself and then put into the class line by line,
every line with four blanks in front, so a line of a method is never empty
there, whatever the method holds. Between two methods there is one line
that is empty. The printed methods can therefore be read back from the
lines of the class (`SourceFile.membersOf`): they are what stands between
the empty lines.

That is so for methods in which no carriage return stands in front of a
line feed, as splitting a text into lines would drop it. Of such a text the
lines are the parts between its line feeds (`Text.lines_eq_split`), so
nothing is lost in splitting it. `SourceFile.lines_render` says what the
lines of a printed class are and that its methods are read back from them.
-/

namespace FxmlCodegen

/-! ## Lines of a text -/

namespace Text

/-- The text is one line, and does not end in what could be taken for a
part of the line end. -/
structure IsLine (line : String) : Prop where
  noFeed : '\n' ∉ line.toList
  noReturn : line.toList.getLast? ≠ some '\r'

/-- Lines with a line feed behind each. -/
def terminated (lines : List String) : String := String.join (lines.map (· ++ "\n"))

theorem terminated_append (lines lines' : List String) :
    terminated (lines ++ lines') = terminated lines ++ terminated lines' := by
  rw [terminated, List.map_append, String.join_append]
  rfl

theorem dropReturn_eq_self {line : List Char} (h : line.getLast? ≠ some '\r') :
    dropReturn line = line := if_neg h

/-- Parts that are not the last have been ended by a line feed. -/
theorem partsToLines_append {parts' : List (List Char)} (hne : parts' ≠ []) :
    ∀ parts : List (List Char),
      partsToLines (parts ++ parts') = parts.map dropReturn ++ partsToLines parts'
  | [] => rfl
  | part :: parts => by
      obtain ⟨next, rest, hnext⟩ := List.exists_cons_of_ne_nil (List.append_ne_nil_of_right_ne_nil parts hne)
      rw [List.cons_append, List.map_cons, List.cons_append, ← partsToLines_append hne parts, hnext]
      rfl

theorem splitList_ne_nil (sep : Char) (cs : List Char) : splitList sep cs ≠ [] := by
  obtain ⟨first, rest, hsplit, -⟩ := splitList_eq_cons sep cs
  rw [hsplit]
  exact List.cons_ne_nil first rest

/-- A text that is ended by a line feed has its lines whatever follows. -/
theorem lines_append (text rest : String) :
    lines (text ++ "\n" ++ rest) = lines (text ++ "\n") ++ lines rest := by
  have hlines : ∀ after : String, lines (text ++ "\n" ++ after)
      = ((splitList '\n' text.toList).map dropReturn).map String.ofList ++ lines after := by
    intro after
    have hchars : (text ++ "\n" ++ after).toList = text.toList ++ '\n' :: after.toList := by
      simp only [String.toList_append, List.append_assoc]
      rfl
    rw [lines, hchars, splitList_append, partsToLines_append (splitList_ne_nil _ _),
      List.map_append, lines]
  have hend := hlines ""
  rw [String.append_empty] at hend
  rw [hlines, hend]
  exact congrArg (· ++ lines rest) (List.append_nil _).symm

theorem IsLine.lines_eq {line : String} (hline : IsLine line) : lines (line ++ "\n") = [line] := by
  have hchars : (line ++ "\n").toList = line.toList ++ '\n' :: [] := by
    rw [String.toList_append]
    rfl
  rw [lines, hchars, splitList_append, splitList_of_not_mem hline.noFeed,
    partsToLines_append (splitList_ne_nil _ _), List.map_cons, dropReturn_eq_self hline.noReturn]
  simp [splitList, partsToLines]

theorem lines_terminated {ls : List String} (hls : ∀ line ∈ ls, IsLine line) :
    lines (terminated ls) = ls := by
  induction ls with
  | nil => rfl
  | cons line ls ih =>
      rw [List.forall_mem_cons] at hls
      rw [terminated, List.map_cons, String.join_cons, lines_append, hls.1.lines_eq]
      exact congrArg (line :: ·) (ih hls.2)

/-! ### Texts without a carriage return in front of a line feed -/

/-- A part between separators ends with the text or has a separator
behind it. -/
theorem suffix_or_infix_of_mem_splitList {sep : Char} {cs part : List Char}
    (hpart : part ∈ splitList sep cs) : part <:+ cs ∨ part ++ [sep] <:+: cs := by
  induction cs with
  | nil => exact .inl (List.mem_singleton.mp hpart ▸ List.suffix_refl _)
  | cons c cs ih =>
      have hlater : part ∈ splitList sep cs → part <:+ c :: cs ∨ part ++ [sep] <:+: c :: cs :=
        fun h => (ih h).imp (·.trans (List.suffix_cons c cs)) List.infix_cons
      obtain ⟨first, rest, hsplit, hcs⟩ := splitList_eq_cons sep cs
      rw [splitList] at hpart
      split at hpart
      · rename_i hc
        rcases List.mem_cons.mp hpart with rfl | hpart
        · exact .inr ⟨[], cs, congrArg (· :: cs) hc.symm⟩
        · exact hlater hpart
      · rw [hsplit] at hpart hlater
        rcases List.mem_cons.mp hpart with rfl | hpart
        · cases rest with
          | nil => exact .inl ⟨[], by rw [hcs]; simp⟩
          | cons next rest => exact .inr ⟨[], next ++ rest.flatMap (sep :: ·), by rw [hcs]; simp⟩
        · exact hlater (List.mem_cons_of_mem first hpart)

/-- Where no carriage return stands in front of a line feed, nor one of the
two at the end, the lines are the parts between line feeds. -/
theorem lines_eq_split {s : String} {last : Char} (hpairs : ¬ ['\r', '\n'] <:+: s.toList)
    (hlast : s.toList.getLast? = some last) (hfeed : last ≠ '\n') (hreturn : last ≠ '\r') :
    lines s = split '\n' s ∧ ∀ line ∈ split '\n' s, IsLine line := by
  have hparts : ∀ part ∈ splitList '\n' s.toList, part.getLast? ≠ some '\r' := by
    intro part hpart hend
    obtain ⟨front, rfl⟩ := List.getLast?_eq_some_iff.mp hend
    rcases suffix_or_infix_of_mem_splitList hpart with ⟨before, hs⟩ | hin
    · rw [← hs, List.getLast?_append, List.getLast?_concat] at hlast
      exact hreturn (Option.some.inj hlast).symm
    · rw [List.append_assoc] at hin
      exact hpairs ((List.suffix_append front _).isInfix.trans hin)
  constructor
  · refine congrArg (List.map String.ofList) ?_
    cases hcut : cutLastList '\n' s.toList with
    | none =>
        have hne : s.toList ≠ [] := by
          intro hnil
          rw [hnil] at hlast
          cases hlast
        rw [splitList_of_not_mem (cutLastList_eq_none.mp hcut), partsToLines,
          if_neg (by simpa using hne)]
    | some cut =>
        obtain ⟨before, after⟩ := cut
        obtain ⟨hs, hafter⟩ := cutLastList_eq_some.mp hcut
        rw [hs] at hparts hlast ⊢
        rw [splitList_append, splitList_of_not_mem hafter] at hparts ⊢
        have hne : after ≠ [] := by
          rintro rfl
          rw [List.getLast?_concat] at hlast
          exact hfeed (Option.some.inj hlast).symm
        have hbefore : (splitList '\n' before).map dropReturn = splitList '\n' before := by
          refine (List.map_congr_left fun part hpart => ?_).trans (List.map_id _)
          exact dropReturn_eq_self (hparts part (List.mem_append_left _ hpart))
        rw [partsToLines_append (List.cons_ne_nil _ _), hbefore, partsToLines,
          if_neg (by simpa using hne)]
  · intro line hline
    refine ⟨not_mem_of_mem_split hline, ?_⟩
    obtain ⟨part, hpart, rfl⟩ := List.mem_map.mp hline
    rw [String.toList_ofList]
    exact hparts part hpart

theorem intercalate_split (s : String) : "\n".intercalate (split '\n' s) = s := by
  rw [← String.toList_inj, String.toList_intercalate, split, List.map_map]
  have hid : String.toList ∘ String.ofList = id := funext fun _ => String.toList_ofList
  rw [hid, List.map_id]
  exact intercalate_splitList '\n' s.toList

theorem mem_of_mem_intercalate {α : Type} {a : α} {sep : List α} :
    ∀ {blocks : List (List α)}, a ∈ sep.intercalate blocks → a ∈ sep ∨ ∃ block ∈ blocks, a ∈ block
  | [], h => by cases h
  | [block], h => by
      rw [List.intercalate_singleton] at h
      exact .inr ⟨block, List.mem_singleton_self block, h⟩
  | block :: next :: blocks, h => by
      rw [List.intercalate_cons_cons, List.mem_append, List.mem_append] at h
      rcases h with (h | h) | h
      · exact .inr ⟨block, List.mem_cons_self, h⟩
      · exact .inl h
      · refine (mem_of_mem_intercalate h).imp id fun ⟨other, hother, ha⟩ => ?_
        exact ⟨other, List.mem_cons_of_mem block hother, ha⟩

/-- Blocks of lines with an empty line between them. -/
theorem intercalate_terminated : ∀ blocks : List (List String),
    "\n".intercalate (blocks.map terminated) = terminated ([""].intercalate blocks)
  | [] => rfl
  | [block] => by rw [List.map_singleton, String.intercalate_singleton, List.intercalate_singleton]
  | block :: next :: blocks => by
      have hrest := intercalate_terminated (next :: blocks)
      rw [List.map_cons] at hrest
      rw [List.map_cons, List.map_cons, String.intercalate_cons_cons, List.intercalate_cons_cons,
        terminated_append, terminated_append, hrest]
      rfl

end Text

/-! ## Class bodies -/

namespace Java

/-- The line as it stands in a class. -/
def indent (line : String) : String := "    " ++ line

def unindent (line : String) : String := String.ofList (line.toList.drop 4)

theorem unindent_indent (line : String) : unindent (indent line) = line := by
  rw [unindent, indent, String.toList_append]
  exact String.ofList_toList

theorem indent_ne_empty (line : String) : indent line ≠ "" := by
  intro h
  have hchars := congrArg String.toList h
  rw [indent, String.toList_append] at hchars
  cases hchars

theorem isLine_indent {line : String} (hline : Text.IsLine line) : Text.IsLine (indent line) where
  noFeed := by
    rw [indent, String.toList_append, List.mem_append, not_or]
    exact ⟨by decide, hline.noFeed⟩
  noReturn := by
    rw [indent, String.toList_append, List.getLast?_append]
    cases hlast : line.toList.getLast? with
    | none => decide
    | some c =>
        rw [Option.some_or, ← hlast]
        exact hline.noReturn

namespace SourceFile

/-- The text of a file as far as the line that opens its class. -/
def header (file : SourceFile) : String :=
  file.renderPackage ++ file.renderImports ++ "public class " ++ file.typeName ++ " \x7b\n"

/-- The lines of a class body: those of the methods, indented, with an
empty line between two methods. -/
def bodyLines (file : SourceFile) : List String :=
  [""].intercalate (file.methods.map fun m => (Text.lines m.render).map indent)

/-- The texts of the methods, from the lines of a class body and the one
that closes it: what stands between empty lines, without indentation. -/
def membersOf (lines : List String) : List String :=
  if lines.dropLast = [] then []
  else (lines.dropLast.splitOn "").map fun block => "\n".intercalate (block.map unindent)

/-- The text ends in a brace, so there is no line end at its end. -/
theorem getLast?_render (m : Method) : m.render.toList.getLast? = some '\x7d' := by
  rw [Method.render, String.toList_append]
  exact List.getLast?_concat

theorem render_eq (file : SourceFile) :
    file.render = file.header ++ Text.terminated (file.bodyLines ++ ["\x7d"]) := by
  have hmembers : file.methods.map renderMember
      = (file.methods.map fun m => (Text.lines m.render).map indent).map Text.terminated := by
    rw [List.map_map]
    refine List.map_congr_left fun m _ => ?_
    rw [renderMember, Function.comp, Text.terminated, List.map_map]
    rfl
  have hbody : "\n".intercalate (file.methods.map renderMember) = Text.terminated file.bodyLines := by
    rw [hmembers, Text.intercalate_terminated, bodyLines]
  have hclose : Text.terminated ["\x7d"] = "\x7d\n" := by decide
  have hrender : file.render
      = file.header ++ "\n".intercalate (file.methods.map renderMember) ++ "\x7d\n" := by
    rw [render, header]
  rw [hrender, hbody, Text.terminated_append, hclose, String.append_assoc]

variable {file : SourceFile}

theorem lines_method {m : Method} (hpairs : ¬ ['\r', '\n'] <:+: m.render.toList) :
    Text.lines m.render = Text.split '\n' m.render
      ∧ ∀ line ∈ Text.split '\n' m.render, Text.IsLine line :=
  Text.lines_eq_split hpairs (getLast?_render m) (by decide) (by decide)

theorem isLine_bodyLines (hpairs : ∀ m ∈ file.methods, ¬ ['\r', '\n'] <:+: m.render.toList) :
    ∀ line ∈ file.bodyLines, Text.IsLine line := by
  intro line hline
  rcases Text.mem_of_mem_intercalate hline with hline | ⟨block, hblock, hline⟩
  · rw [List.mem_singleton.mp hline]
    exact ⟨by decide, by decide⟩
  · obtain ⟨m, hm, rfl⟩ := List.mem_map.mp hblock
    obtain ⟨own, hown, rfl⟩ := List.mem_map.mp hline
    obtain ⟨hlines, hisLine⟩ := lines_method (hpairs m hm)
    rw [hlines] at hown
    exact isLine_indent (hisLine own hown)

/-- A block of lines is the text of its method. -/
theorem intercalate_unindent {m : Method} (hpairs : ¬ ['\r', '\n'] <:+: m.render.toList) :
    "\n".intercalate (((Text.lines m.render).map indent).map unindent) = m.render := by
  have hid : unindent ∘ indent = id := funext unindent_indent
  rw [List.map_map, hid, List.map_id, (lines_method hpairs).1, Text.intercalate_split]

theorem membersOf_bodyLines
    (hpairs : ∀ m ∈ file.methods, ¬ ['\r', '\n'] <:+: m.render.toList) :
    membersOf (file.bodyLines ++ ["\x7d"]) = file.methods.map Method.render := by
  rw [membersOf, List.dropLast_concat]
  by_cases hnone : file.methods = []
  · simp [bodyLines, hnone]
  · have hblocks : ∀ block ∈ file.methods.map fun m => (Text.lines m.render).map indent,
        "" ∉ block := by
      intro block hblock hempty
      obtain ⟨m, -, rfl⟩ := List.mem_map.mp hblock
      obtain ⟨line, -, hline⟩ := List.mem_map.mp hempty
      exact indent_ne_empty line hline
    have hsplit := List.splitOn_intercalate "" hblocks fun h => hnone (List.map_eq_nil_iff.mp h)
    have hne : file.bodyLines ≠ [] := by
      -- Otherwise there is one block only, and that is empty.
      intro hnil
      obtain ⟨m, ms, hmethods⟩ := List.exists_cons_of_ne_nil hnone
      rw [bodyLines] at hnil
      rw [hnil, hmethods, List.map_cons] at hsplit
      have hfirst : Text.split '\n' m.render = [] := by
        rw [← (lines_method (hpairs m (hmethods ▸ List.mem_cons_self))).1]
        exact List.map_eq_nil_iff.mp (List.cons.inj hsplit).1.symm
      exact Text.splitList_ne_nil _ _ (List.map_eq_nil_iff.mp hfirst)
    rw [if_neg hne, bodyLines, hsplit, List.map_map]
    refine List.map_congr_left fun m hm => ?_
    rw [Function.comp, intercalate_unindent (hpairs m hm)]

/-- Behind its header, a printed class has the lines of its methods,
indented, with one empty line between two methods, and a closing brace. The
printed methods can be read back from these lines. -/
theorem lines_render (hpairs : ∀ m ∈ file.methods, ¬ ['\r', '\n'] <:+: m.render.toList) :
    (∃ rest, file.render = file.header ++ rest)
      ∧ Text.lines file.render = Text.lines file.header ++ (file.bodyLines ++ ["\x7d"])
      ∧ membersOf ((Text.lines file.render).drop (Text.lines file.header).length)
        = file.methods.map Method.render := by
  have hlines : Text.lines file.render
      = Text.lines file.header ++ (file.bodyLines ++ ["\x7d"]) := by
    have hbody : ∀ line ∈ file.bodyLines ++ ["\x7d"], Text.IsLine line := by
      intro line hline
      rcases List.mem_append.mp hline with hline | hline
      · exact isLine_bodyLines hpairs line hline
      · rw [List.mem_singleton.mp hline]
        exact ⟨by decide, by decide⟩
    have hheader : file.header = file.renderPackage ++ file.renderImports ++ "public class "
        ++ file.typeName ++ " \x7b" ++ "\n" := by
      rw [header, @String.append_assoc _ " \x7b" _]
      rfl
    rw [render_eq, hheader, Text.lines_append, Text.lines_terminated hbody]
  refine ⟨⟨_, render_eq file⟩, hlines, ?_⟩
  rw [hlines, List.drop_left]
  exact membersOf_bodyLines hpairs

/-- A class with a method that looks like more than one: a value goes over
lines, one of them empty and one like the end of a class. -/
def ragged : SourceFile where
  package := some "com.example"
  imports := none
  typeName := "Main"
  methods := [
    { modifier := .public, returnType := "VBox", name := "create"
      body := [.expr ((Expr.name "vBox").setter "text" (.name "a\n\n\x7d\r;\n    ")),
        .ret (.name "vBox")] },
    { modifier := .private, returnType := "void", name := "reset", body := [] }]

theorem lines_render_ragged :
    (∀ m ∈ ragged.methods, ¬ ['\r', '\n'] <:+: m.render.toList)
      ∧ ragged.bodyLines = [
        "    public VBox create() \x7b",
        "        vBox.setText(a",
        "    ",
        "    \x7d\r;",
        "        );",
        "        return vBox;",
        "    \x7d",
        "",
        "    private void reset() \x7b",
        "    \x7d"]
      ∧ Text.lines ragged.render = Text.lines ragged.header ++ (ragged.bodyLines ++ ["\x7d"])
      ∧ membersOf ((Text.lines ragged.render).drop 3) = ragged.methods.map Method.render := by
  have hpairs : ∀ m ∈ ragged.methods, ¬ ['\r', '\n'] <:+: m.render.toList := by
    rw [ragged, List.forall_mem_cons, List.forall_mem_singleton]
    exact ⟨by decide +kernel, by decide +kernel⟩
  obtain ⟨-, hlines, hmembers⟩ := lines_render hpairs
  have hheader : (Text.lines ragged.header).length = 3 := by decide +kernel
  rw [hheader] at hmembers
  exact ⟨hpairs, by decide +kernel, hlines, hmembers⟩

end SourceFile

end Java

end FxmlCodegen
