import FxmlCodegen.Java.Printer
import FxmlCodegen.Proofs.ExtendedFiles
import FxmlCodegen.Proofs.InstructionText

/-!
# The grammar of instructions

Which texts are instructions, and what becomes of an import. `Spells`
gives the two forms as texts, with the blanks they may have, and reading
accepts exactly those (`ofContent?_grammar`).

That a spelled text is read needs the reader to split it where the grammar
does: a keyword is followed by all the blanks there are
(`afterKeyword?_gap`), and a path is as long as it can be, so nothing that
may stand behind it goes on with it (`readPath_ending`). That a text which
is read is spelled needs the part the reader takes off to be a path
(`completes_readPath`), and the trimmed text to have no blank behind its
semicolon (`exists_ending`).
-/

namespace FxmlCodegen

open Java (Import)

/-! ## Blanks -/

namespace Text

theorem isBlank_head?_dropWhile {cs : List Char} {c : Char}
    (hc : (cs.dropWhile isBlank).head? = some c) : isBlank c = false := by
  have hnot := List.head?_dropWhile_not isBlank cs
  rw [hc] at hnot
  simpa using hnot

theorem isBlank_getLast?_trim {cs : List Char} {c : Char} (hc : (trim cs).getLast? = some c) :
    isBlank c = false := by
  rw [trim, List.getLast?_reverse] at hc
  exact isBlank_head?_dropWhile hc

end Text

namespace Instruction

open Text (isBlank)

theorem exists_gap_of_afterKeyword? {keyword : String} {cs rest : List Char}
    (hrest : afterKeyword? keyword cs = some rest) :
    ∃ gap, gap ≠ [] ∧ (∀ c ∈ gap, isBlank c = true) ∧ cs = keyword.toList ++ gap ++ rest := by
  unfold afterKeyword? at hrest
  obtain ⟨hstarts, hrest⟩ := Option.ite_none_right_eq_some.mp hrest
  obtain ⟨text, rfl⟩ := List.isPrefixOf_iff_prefix.mp hstarts
  rw [← String.length_toList, List.drop_left] at hrest
  cases text with
  | nil => cases hrest
  | cons c text =>
      obtain ⟨hc, htext⟩ := Option.ite_none_right_eq_some.mp hrest
      cases htext
      refine ⟨c :: text.takeWhile isBlank, List.cons_ne_nil _ _, fun d hd => ?_, ?_⟩
      · rcases List.mem_cons.mp hd with rfl | hd
        · exact hc
        · exact List.all_eq_true.mp List.all_takeWhile d hd
      · rw [List.append_assoc, List.cons_append, List.takeWhile_append_dropWhile]

/-! ## Paths -/

theorem isSegment_concat {s : List Char} (hs : isSegment s = true) {c : Char}
    (hc : continuesSegment c = true) : isSegment (s ++ [c]) = true := by
  obtain ⟨d, cs, rfl, hd, hcs⟩ := exists_cons_of_isSegment hs
  rw [List.cons_append, isSegment, hd, List.all_append, hcs, List.all_cons, hc]
  rfl

theorem readPath_append_eq (inside : Bool) (cs : List Char) :
    (readPath inside cs).1 ++ (readPath inside cs).2 = cs := by
  fun_induction readPath inside cs <;> simp_all

/-- The text completes the segment before it to a path. Where no segment
is before it, it is a path or empty. -/
def Completes (inside : Bool) (cs : List Char) : Prop :=
  if inside then ∀ s, isSegment s = true → IsPath (s ++ cs) else cs = [] ∨ IsPath cs

theorem completes_nil (inside : Bool) : Completes inside [] := by
  cases inside with
  | false => exact Or.inl rfl
  | true =>
      intro s hs
      rw [List.append_nil]
      exact .segment hs

theorem completes_cons {inside : Bool} {c : Char} {cs : List Char}
    (hc : (if inside then continuesSegment c else startsSegment c) = true)
    (hcs : Completes true cs) : Completes inside (c :: cs) := by
  cases inside with
  | false =>
      have hsegment : isSegment [c] = true := by rw [isSegment, Bool.and_eq_true]; exact ⟨hc, rfl⟩
      exact Or.inr (hcs [c] hsegment)
  | true =>
      intro s hs
      have hpath := hcs (s ++ [c]) (isSegment_concat hs hc)
      rwa [List.append_assoc] at hpath

theorem completes_readPath (inside : Bool) (cs : List Char) :
    Completes inside (readPath inside cs).1 := by
  fun_induction readPath inside cs with
  | case1 inside => exact completes_nil inside
  | case2 inside c hc => exact completes_cons hc (completes_nil true)
  | case3 inside c hc => exact completes_nil inside
  | case4 inside c d cs hc path rest hread ih =>
      rw [hread] at ih
      exact completes_cons hc ih
  | case5 inside c d cs hc hdot path rest hread ih =>
      simp only [Bool.and_eq_true, decide_eq_true_eq] at hdot
      obtain ⟨⟨rfl, rfl⟩, hd⟩ := hdot
      rw [hread] at ih
      -- The dot was taken because of what follows it, so that is no empty path.
      have hpath : IsPath path := by
        rcases ih with hnil | hpath
        · rw [readPath_cons false hd] at hread
          cases hread
          cases hnil
        · exact hpath
      exact fun s hs => .dot hs hpath
  | case6 inside c d cs hc hdot => exact completes_nil inside

/-- Nothing that may stand behind a path goes on with it. -/
theorem readPath_eq_nil {cs : List Char}
    (hfirst : ∀ c, cs.head? = some c → continuesSegment c = false)
    (hdot : ∀ c, cs.tail.head? = some c → cs.head? = some '.' → startsSegment c = false) :
    readPath true cs = ([], cs) := by
  match cs with
  | [] => rfl
  | [c] => simp [readPath, hfirst c rfl]
  | c :: d :: cs =>
      have hnot : ¬ (c = '.' ∧ startsSegment d = true) := by
        rintro ⟨rfl, hd⟩
        rw [hdot d rfl rfl] at hd
        cases hd
      simp [readPath, hfirst c rfl]
      exact fun hc => Bool.eq_false_iff.mpr fun hd => hnot ⟨hc, hd⟩

/-! ## Behind a path -/

/-- Blanks, and perhaps a semicolon. -/
def ending (gap : List Char) (semicolon : Bool) : List Char := gap ++ if semicolon then [';'] else []

theorem exists_ending {cs : List Char} (hend : isImportEnd cs = true)
    (hlast : ∀ c, cs.getLast? = some c → isBlank c = false) :
    ∃ gap semicolon, (∀ c ∈ gap, isBlank c = true) ∧ cs = ending gap semicolon := by
  have hblank : ∀ c ∈ cs.takeWhile isBlank, isBlank c = true :=
    List.all_eq_true.mp List.all_takeWhile
  have hsplit := List.takeWhile_append_dropWhile (p := isBlank) (l := cs)
  unfold isImportEnd at hend
  split at hend
  · rename_i rest hrest
    rw [hrest] at hsplit
    -- A blank behind the semicolon would be the last character.
    have hnil : rest = [] := by
      cases hgetLast : rest.getLast? with
      | none => exact List.getLast?_eq_none_iff.mp hgetLast
      | some c =>
          have hc : isBlank c = true :=
            List.all_eq_true.mp hend c (List.mem_of_getLast? hgetLast)
          have hcs : cs.getLast? = some c := by
            rw [← hsplit, List.getLast?_append, List.getLast?_cons, hgetLast]
            rfl
          rw [hlast c hcs] at hc
          cases hc
    subst hnil
    exact ⟨_, true, hblank, hsplit.symm⟩
  · rw [List.isEmpty_iff.mp hend] at hsplit
    exact ⟨_, false, hblank, hsplit.symm⟩

theorem isImportEnd_ending {gap : List Char} (hgap : ∀ c ∈ gap, isBlank c = true)
    (semicolon : Bool) : isImportEnd (ending gap semicolon) = true := by
  unfold isImportEnd
  rw [ending, List.dropWhile_append_of_pos hgap]
  cases semicolon <;> decide

theorem head?_ending {gap : List Char} (hgap : ∀ c ∈ gap, isBlank c = true) {semicolon : Bool}
    {c : Char} (hc : (ending gap semicolon).head? = some c) : isBlank c = true ∨ c = ';' := by
  rw [ending, List.head?_append] at hc
  cases gap with
  | cons d gap =>
      cases hc
      exact Or.inl (hgap c List.mem_cons_self)
  | nil =>
      cases semicolon <;> cases hc
      exact Or.inr rfl

theorem continuesSegment_head?_ending {gap : List Char} (hgap : ∀ c ∈ gap, isBlank c = true)
    {semicolon : Bool} {c : Char} (hc : (ending gap semicolon).head? = some c) :
    continuesSegment c = false ∧ c ≠ '.' := by
  rcases head?_ending hgap hc with hblank | rfl
  · refine ⟨Bool.eq_false_iff.mpr fun hcontinues => ?_, ?_⟩
    · have hpart := isWordPart_of_continuesSegment hcontinues
      rw [isWordPart, hblank] at hpart
      cases hpart
    · rintro rfl
      cases hblank
  · exact ⟨by decide +kernel, by decide⟩

/-! ## The two forms -/

/-- The text spells the instruction: an import has a path, a star for a
whole package, and perhaps a semicolon; a language has one word. -/
inductive Spells : Instruction → List Char → Prop
  | import {gap path gap' : List Char} (wholePackage semicolon : Bool) (hne : gap ≠ [])
      (hgap : ∀ c ∈ gap, isBlank c = true) (hpath : IsPath path)
      (hgap' : ∀ c ∈ gap', isBlank c = true) :
      Spells (.import (String.ofList path) wholePackage)
        ("import".toList ++ gap
          ++ (path ++ ((if wholePackage then ['.', '*'] else []) ++ ending gap' semicolon)))
  | language {gap word : List Char} (hne : gap ≠ []) (hgap : ∀ c ∈ gap, isBlank c = true)
      (hword : word ≠ []) (hchars : ∀ c ∈ word, isBlank c = false) :
      Spells (.language (String.ofList word)) ("language".toList ++ gap ++ word)

theorem importOfText?_cases {cs : List Char} {i : Instruction} (hi : importOfText? cs = some i) :
    ∃ text path wholePackage rest, afterKeyword? "import" cs = some text
      ∧ readPath false text = (path, (if wholePackage then ['.', '*'] else []) ++ rest)
      ∧ path ≠ [] ∧ isImportEnd rest = true ∧ i = .import (String.ofList path) wholePackage := by
  unfold importOfText? at hi
  obtain ⟨text, htext, hi⟩ := Option.bind_eq_some_iff.mp hi
  cases hread : readPath false text with
  | mk path rest =>
      simp only [hread] at hi
      split at hi
      · cases hi
      · rename_i hpath
        rw [List.isEmpty_iff] at hpath
        split at hi
        · rename_i rest'
          obtain ⟨hend, hi⟩ := Option.ite_none_right_eq_some.mp hi
          cases hi
          exact ⟨text, path, true, rest', htext, hread, hpath, hend, rfl⟩
        · obtain ⟨hend, hi⟩ := Option.ite_none_right_eq_some.mp hi
          cases hi
          exact ⟨text, path, false, rest, htext, hread, hpath, hend, rfl⟩

theorem spells_of_importOfText? {cs : List Char} {i : Instruction}
    (hlast : ∀ c, cs.getLast? = some c → isBlank c = false) (hi : importOfText? cs = some i) :
    Spells i cs := by
  obtain ⟨text, path, wholePackage, rest, htext, hread, hpath, hend, rfl⟩ := importOfText?_cases hi
  obtain ⟨gap, hne, hgap, rfl⟩ := exists_gap_of_afterKeyword? htext
  have hcompletes := completes_readPath false text
  have happend := readPath_append_eq false text
  rw [hread] at hcompletes happend
  have hrest : ∀ c, rest.getLast? = some c → isBlank c = false := by
    intro c hc
    refine hlast c ?_
    rw [← happend]
    simp only [List.getLast?_append, hc, Option.some_or]
  obtain ⟨gap', semicolon, hgap', rfl⟩ := exists_ending hend hrest
  rw [← happend]
  exact .import wholePackage semicolon hne hgap (hcompletes.resolve_left hpath) hgap'

theorem languageOfText?_eq_some_iff {cs : List Char} {i : Instruction} :
    languageOfText? cs = some i
      ↔ ∃ word, afterKeyword? "language" cs = some word ∧ word ≠ []
        ∧ (∀ c ∈ word, isBlank c = false) ∧ i = .language (String.ofList word) := by
  unfold languageOfText?
  refine Option.bind_eq_some_iff.trans (exists_congr fun word => and_congr_right fun _ => ?_)
  rw [Option.ite_none_left_eq_some, Option.some_inj, @eq_comm _ i]
  simp [and_assoc]

theorem readPath_ending (wholePackage : Bool) {gap : List Char}
    (hgap : ∀ c ∈ gap, isBlank c = true) (semicolon : Bool) :
    readPath true ((if wholePackage then ['.', '*'] else []) ++ ending gap semicolon)
      = ([], (if wholePackage then ['.', '*'] else []) ++ ending gap semicolon) := by
  cases wholePackage with
  | true =>
      have hdot : continuesSegment '.' = false := by decide +kernel
      have hstar : startsSegment '*' = false := by decide
      refine readPath_eq_nil (fun c hc => ?_) (fun c hc _ => ?_)
      · cases hc
        exact hdot
      · cases hc
        exact hstar
  | false =>
      have hfirst : ∀ c, (ending gap semicolon).head? = some c →
          continuesSegment c = false ∧ c ≠ '.' := fun c => continuesSegment_head?_ending hgap
      refine readPath_eq_nil (fun c hc => (hfirst c hc).1) (fun c _ hdot => ?_)
      exact absurd rfl (hfirst '.' hdot).2

/-- A text that spells an import is read as it. -/
theorem importOfText?_eq_some {path : String} {wholePackage : Bool} {cs : List Char}
    (hspells : Spells (.import path wholePackage) cs) :
    importOfText? cs = some (.import path wholePackage) := by
  cases hspells with
  | @«import» gap path gap' _ semicolon hne hgap hpath hgap' =>
      have hfirst : ∀ c, (path ++ ((if wholePackage then ['.', '*'] else [])
          ++ ending gap' semicolon)).head? = some c → isBlank c = false := by
        intro c hc
        rw [List.head?_append_of_ne_nil _ hpath.isWord.ne_nil] at hc
        exact (hpath.isWord.chars c (List.mem_of_mem_head? hc)).1
      have hkeyword := afterKeyword?_gap "import" hne hgap hfirst
      have hread := hpath.readPath_eq (readPath_ending wholePackage hgap' semicolon)
      have hend := isImportEnd_ending hgap' semicolon
      have hempty : ¬ path.isEmpty = true := fun h => hpath.isWord.ne_nil (List.isEmpty_iff.mp h)
      unfold importOfText?
      rw [hkeyword]
      simp only [Option.bind_eq_bind, Option.bind_some, hread, if_neg hempty]
      cases wholePackage with
      | true => exact if_pos hend
      | false =>
          simp only [Bool.false_eq_true, if_false, List.nil_append]
          split
          · rename_i rest hrest
            exact absurd rfl (continuesSegment_head?_ending hgap' (congrArg List.head? hrest)).2
          · exact if_pos hend

/-- Reading accepts exactly the texts that spell an instruction. -/
theorem ofContent?_eq_some_iff (content : String) (i : Instruction) :
    ofContent? content = some i ↔ Spells i (Text.trim content.toList) := by
  have hread : ofContent? content = (importOfText? (Text.trim content.toList)).or
      (languageOfText? (Text.trim content.toList)) := Option.orElse_eq_or
  rw [hread]
  generalize htext : Text.trim content.toList = cs
  have hlast : ∀ c, cs.getLast? = some c → isBlank c = false := by
    intro c hc
    rw [← htext] at hc
    exact Text.isBlank_getLast?_trim hc
  constructor
  · intro hi
    rcases Option.or_eq_some_iff.mp hi with himport | ⟨-, hlanguage⟩
    · exact spells_of_importOfText? hlast himport
    · obtain ⟨word, hword, hne, hchars, rfl⟩ := languageOfText?_eq_some_iff.mp hlanguage
      obtain ⟨gap, hgap, hblank, rfl⟩ := exists_gap_of_afterKeyword? hword
      exact .language hgap hblank hne hchars
  · intro hspells
    cases i with
    | «import» path wholePackage => rw [importOfText?_eq_some hspells, Option.some_or]
    | language name =>
        cases hspells with
        | @language gap word hne hgap hword hchars =>
            have himport : importOfText? ("language".toList ++ gap ++ word) = none := by
              rw [importOfText?, List.append_assoc, afterKeyword?_import_language]
              rfl
            have hafter := afterKeyword?_gap "language" hne hgap
              fun c hc => hchars c (List.mem_of_mem_head? hc)
            rw [himport, Option.none_or]
            exact languageOfText?_eq_some_iff.mpr ⟨word, hafter, hword, hchars, rfl⟩

/-! ## From the instruction to its declaration -/

theorem map_render_toImport?_eq_some_iff {options : Options} {i : Instruction} {text : String} :
    (i.toImport? options).map Import.render = some text
      ↔ ∃ path wholePackage, i = .import path wholePackage ∧ path ≠ options.implicitPackage
        ∧ text = "import " ++ path ++ (if wholePackage then ".*" else "") ++ ";" := by
  rw [Option.map_eq_some_iff]
  constructor
  · rintro ⟨x, hx, rfl⟩
    obtain ⟨rfl, hstatic, hne⟩ := toImport?_eq_some hx
    refine ⟨_, _, rfl, hne, ?_⟩
    rw [Import.render, hstatic]
    rfl
  · rintro ⟨path, wholePackage, rfl, hne, rfl⟩
    exact ⟨⟨path, false, wholePackage⟩, if_neg hne, rfl⟩

/-- An instruction is read from a text exactly when the trimmed text
spells it. What is then declared is the import of the path that stands
there, with its star, unless that is the package every file has anyway. -/
theorem ofContent?_grammar (content : String) :
    (∀ i, ofContent? content = some i ↔ Spells i (Text.trim content.toList))
      ∧ ∀ (options : Options) (text : String),
        ((ofContent? content).bind (toImport? options)).map Import.render = some text
          ↔ ∃ path wholePackage, Spells (.import path wholePackage) (Text.trim content.toList)
            ∧ path ≠ options.implicitPackage
            ∧ text = "import " ++ path ++ (if wholePackage then ".*" else "") ++ ";" := by
  refine ⟨ofContent?_eq_some_iff content, fun options text => ?_⟩
  rw [Option.map_bind, Option.bind_eq_some_iff]
  constructor
  · rintro ⟨i, hi, htext⟩
    obtain ⟨path, wholePackage, rfl, hdeclared⟩ := map_render_toImport?_eq_some_iff.mp htext
    exact ⟨path, wholePackage, (ofContent?_eq_some_iff _ _).mp hi, hdeclared⟩
  · rintro ⟨path, wholePackage, hspells, hdeclared⟩
    exact ⟨_, (ofContent?_eq_some_iff _ _).mpr hspells,
      map_render_toImport?_eq_some_iff.mpr ⟨path, wholePackage, rfl, hdeclared⟩⟩

example : ofContent? " import\tjava.util.* ; " = some (.import "java.util" true)
    ∧ ofContent? "import java.util.*.*" = none := by decide +kernel

end Instruction

end FxmlCodegen
