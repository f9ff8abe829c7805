import FxmlCodegen.Document.Instruction
import FxmlCodegen.Proofs.TagText

/-!
# Writing instructions

The plainest text for an `import` and for a `language`, and that it is
read back as the instruction it was written for
(`Instruction.ofContent?_content`). An import names a dotted path
(`IsPath`); reading a path is greedy, so what follows it must not look
like more of it. A language is one word.

Trimming and skipping of blanks never touch a written instruction, as its
word has none. For paths this is a fact about character classes: no word
character is blank (`isBlank_of_isWordChar`).
-/

namespace FxmlCodegen

/-! ## Character classes -/

namespace Text

/-- Classes none of whose ranges meet have no character in common. -/
theorem inRanges_of_apart {ranges ranges' : List (Nat × Nat)}
    (hapart : (ranges.all fun r => ranges'.all fun r' => r.2 < r'.1 || r'.2 < r.1) = true) {c : Char}
    (hc : inRanges ranges c = true) : inRanges ranges' c = false := by
  obtain ⟨r, hr, hin⟩ := List.any_eq_true.mp hc
  rw [inRanges, List.any_eq_false]
  intro r' hr' hin'
  have hne := List.all_eq_true.mp (List.all_eq_true.mp hapart r hr) r' hr'
  simp only [Bool.and_eq_true, Bool.or_eq_true, decide_eq_true_eq] at hin hin' hne
  omega

theorem isBlank_of_isWordChar {c : Char} (hc : isWordChar c = true) : isBlank c = false :=
  inRanges_of_apart (by decide +kernel) hc

theorem isWordChar_of_between {a b c : Char} (hrange : (a.toNat, b.toNat) ∈ wordRanges)
    (hc : (a ≤ c && c ≤ b) = true) : isWordChar c = true := by
  rw [Bool.and_eq_true, decide_eq_true_eq, decide_eq_true_eq] at hc
  refine List.any_eq_true.mpr ⟨_, hrange, ?_⟩
  rw [Bool.and_eq_true, decide_eq_true_eq, decide_eq_true_eq]
  exact ⟨UInt32.le_iff_toNat_le.mp hc.1, UInt32.le_iff_toNat_le.mp hc.2⟩

theorem trim_eq_self {cs : List Char} (hfirst : ∀ c, cs.head? = some c → isBlank c = false)
    (hlast : ∀ c, cs.getLast? = some c → isBlank c = false) : trim cs = cs := by
  rw [← List.head?_reverse] at hlast
  rw [trim, dropWhile_eq_self hfirst, dropWhile_eq_self hlast, List.reverse_reverse]

end Text

namespace Instruction

open Text (isBlank)

/-! ## Words -/

/-- The character is not blank and does not end an instruction. -/
def isWordPart (c : Char) : Bool := !isBlank c && c != '>'

/-- The text can be the word after a keyword. -/
structure IsWord (word : List Char) : Prop where
  ne_nil : word ≠ []
  all : word.all isWordPart = true

theorem IsWord.chars {word : List Char} (hword : IsWord word) :
    ∀ c ∈ word, isBlank c = false ∧ c ≠ '>' := by
  intro c hc
  have hpart := List.all_eq_true.mp hword.all c hc
  simpa [isWordPart] using hpart

theorem IsWord.append {word rest : List Char} (hword : IsWord word)
    (hrest : rest.all isWordPart = true) : IsWord (word ++ rest) where
  ne_nil := fun heq => hword.ne_nil (List.append_eq_nil_iff.mp heq).1
  all := by rw [List.all_append, hword.all, hrest]; rfl

/-- Any blanks may divide a keyword from its word. -/
theorem afterKeyword?_gap (keyword : String) {gap rest : List Char} (hne : gap ≠ [])
    (hgap : ∀ c ∈ gap, isBlank c = true) (hrest : ∀ c, rest.head? = some c → isBlank c = false) :
    afterKeyword? keyword (keyword.toList ++ gap ++ rest) = some rest := by
  obtain ⟨c, gap, rfl⟩ := List.exists_cons_of_ne_nil hne
  have hdrop : (gap ++ rest).dropWhile isBlank = rest := by
    rw [List.dropWhile_append_of_pos fun d hd => hgap d (List.mem_cons_of_mem c hd),
      Text.dropWhile_eq_self hrest]
  unfold afterKeyword?
  rw [List.append_assoc, if_pos (List.isPrefixOf_iff_prefix.mpr (List.prefix_append _ _)),
    ← String.length_toList, List.drop_left]
  simp only [List.cons_append, hgap c List.mem_cons_self, if_true, hdrop]

theorem afterKeyword?_append (keyword : String) {word : List Char} (hword : IsWord word) :
    afterKeyword? keyword (keyword.toList ++ ' ' :: word) = some word := by
  have hblank : ∀ c ∈ [' '], isBlank c = true := List.forall_mem_singleton.mpr (by decide)
  have hafter := afterKeyword?_gap keyword (List.cons_ne_nil ' ' []) hblank
    fun c hc => (hword.chars c (List.mem_of_mem_head? hc)).1
  rwa [List.append_assoc] at hafter

theorem trim_keyword (keyword : String)
    (hkeyword : ∃ c, keyword.toList.head? = some c ∧ isBlank c = false) {word : List Char}
    (hword : IsWord word) :
    Text.trim (keyword.toList ++ ' ' :: word) = keyword.toList ++ ' ' :: word := by
  refine Text.trim_eq_self (fun d hd => ?_) (fun d hd => ?_)
  · obtain ⟨c, hc, hblank⟩ := hkeyword
    rw [List.head?_append, hc, Option.some_or] at hd
    cases hd
    exact hblank
  · rw [List.getLast?_append_cons, List.getLast?_cons_of_ne_nil hword.ne_nil] at hd
    exact (hword.chars d (List.mem_of_getLast? hd)).1

/-! ## Paths -/

/-- The text is one part of a dotted path. -/
def isSegment : List Char → Bool
  | [] => false
  | c :: cs => startsSegment c && cs.all continuesSegment

/-- Segments with dots between them. -/
inductive IsPath : List Char → Prop
  | segment {s : List Char} (hs : isSegment s = true) : IsPath s
  | dot {s path : List Char} (hs : isSegment s = true) (hpath : IsPath path) : IsPath (s ++ '.' :: path)

theorem readPath_cons (inside : Bool) {c : Char}
    (hc : (if inside then continuesSegment c else startsSegment c) = true) (cs : List Char) :
    readPath inside (c :: cs) = (c :: (readPath true cs).1, (readPath true cs).2) := by
  cases cs with
  | nil => simp [readPath, hc]
  | cons d cs => rw [readPath, if_pos hc]

theorem readPath_append : ∀ {cs : List Char}, cs.all continuesSegment = true →
    ∀ rest : List Char,
      readPath true (cs ++ rest) = (cs ++ (readPath true rest).1, (readPath true rest).2)
  | [], _, rest => rfl
  | c :: cs, hcs, rest => by
      rw [List.all_cons, Bool.and_eq_true] at hcs
      rw [List.cons_append, readPath_cons true hcs.1, readPath_append hcs.2 rest]
      rfl

theorem exists_cons_of_isSegment {s : List Char} (hs : isSegment s = true) :
    ∃ c cs, s = c :: cs ∧ startsSegment c = true ∧ cs.all continuesSegment = true := by
  cases s with
  | nil => cases hs
  | cons c cs =>
      rw [isSegment, Bool.and_eq_true] at hs
      exact ⟨c, cs, rfl, hs⟩

theorem readPath_segment {s : List Char} (hs : isSegment s = true) (rest : List Char) :
    readPath false (s ++ rest) = (s ++ (readPath true rest).1, (readPath true rest).2) := by
  obtain ⟨c, cs, rfl, hc, hcs⟩ := exists_cons_of_isSegment hs
  rw [List.cons_append, readPath_cons false hc, readPath_append hcs]
  rfl

theorem IsPath.exists_cons {path : List Char} (hpath : IsPath path) :
    ∃ c cs, path = c :: cs ∧ startsSegment c = true := by
  cases hpath with
  | segment hs =>
      obtain ⟨c, cs, rfl, hc, -⟩ := exists_cons_of_isSegment hs
      exact ⟨c, cs, rfl, hc⟩
  | dot hs _ =>
      obtain ⟨c, cs, rfl, hc, -⟩ := exists_cons_of_isSegment hs
      exact ⟨c, _, rfl, hc⟩

theorem readPath_dot {path : List Char} (hpath : IsPath path) (rest : List Char) :
    readPath true ('.' :: (path ++ rest))
      = ('.' :: (readPath false (path ++ rest)).1, (readPath false (path ++ rest)).2) := by
  have hdot : continuesSegment '.' = false := by decide +kernel
  obtain ⟨c, cs, rfl, hc⟩ := hpath.exists_cons
  rw [List.cons_append, readPath, if_pos rfl, hdot, if_neg Bool.false_ne_true, hc]
  rfl

/-- A path is read as far as it goes. -/
theorem IsPath.readPath_eq {path : List Char} (hpath : IsPath path) {rest : List Char}
    (hrest : readPath true rest = ([], rest)) : readPath false (path ++ rest) = (path, rest) := by
  induction hpath with
  | segment hs => rw [readPath_segment hs, hrest, List.append_nil]
  | dot hs hpath ih =>
      rw [List.append_assoc, List.cons_append, readPath_segment hs, readPath_dot hpath, ih]

theorem continuesSegment_of_startsSegment {c : Char} (hc : startsSegment c = true) :
    continuesSegment c = true := by
  rw [startsSegment, isAsciiLetter] at hc
  simp only [Bool.or_eq_true, decide_eq_true_eq] at hc
  rw [continuesSegment, Bool.or_eq_true]
  rcases hc with ((hlower | hupper) | rfl) | rfl
  · exact Or.inl (Text.isWordChar_of_between (by decide) hlower)
  · exact Or.inl (Text.isWordChar_of_between (by decide) hupper)
  · exact Or.inl (by decide)
  · exact Or.inr rfl

theorem isWordPart_of_continuesSegment {c : Char} (hc : continuesSegment c = true) :
    isWordPart c = true := by
  have hblank : isBlank c = false := by
    rcases Bool.or_eq_true_iff.mp hc with hword | hdollar
    · exact Text.isBlank_of_isWordChar hword
    · rw [of_decide_eq_true hdollar]
      decide
  have hclose : c ≠ '>' := by
    rintro rfl
    revert hc
    decide +kernel
  simp [isWordPart, hblank, hclose]

theorem isWord_of_isSegment {s : List Char} (hs : isSegment s = true) : IsWord s := by
  obtain ⟨c, cs, rfl, hc, hcs⟩ := exists_cons_of_isSegment hs
  refine ⟨List.cons_ne_nil c cs, List.all_eq_true.mpr fun d hd => isWordPart_of_continuesSegment ?_⟩
  rcases List.mem_cons.mp hd with rfl | hd
  · exact continuesSegment_of_startsSegment hc
  · exact List.all_eq_true.mp hcs d hd

theorem IsPath.isWord {path : List Char} (hpath : IsPath path) : IsWord path := by
  induction hpath with
  | segment hs => exact isWord_of_isSegment hs
  | dot hs _ ih =>
      have hdot : isWordPart '.' = true := by decide
      exact (isWord_of_isSegment hs).append (by rw [List.all_cons, hdot, ih.all]; rfl)

/-! ## Instructions -/

/-- The word after the keyword. -/
def word : Instruction → List Char
  | .import path wholePackage => path.toList ++ if wholePackage then ['.', '*'] else []
  | .language name => name.toList

def keyword : Instruction → String
  | .import _ _ => "import"
  | .language _ => "language"

/-- What stands between the question marks. -/
def content (i : Instruction) : List Char := i.keyword.toList ++ ' ' :: i.word

/-- The instruction can be written: its path is one, its language is a
word. -/
def Spellable : Instruction → Prop
  | .import path _ => IsPath path.toList
  | .language name => IsWord name.toList

theorem Spellable.isWord {i : Instruction} (hi : i.Spellable) : IsWord i.word := by
  cases i with
  | language name => exact hi
  | «import» path wholePackage =>
      refine (IsPath.isWord hi).append ?_
      cases wholePackage <;> decide

theorem afterKeyword?_import_language (rest : List Char) :
    afterKeyword? "import" ("language".toList ++ rest) = none := by
  have himport : "import".toList = 'i' :: "mport".toList := rfl
  have hlanguage : "language".toList = 'l' :: "anguage".toList := rfl
  rw [afterKeyword?, if_neg]
  rw [himport, hlanguage, List.cons_append, List.isPrefixOf_cons_cons]
  exact Bool.false_ne_true

theorem importOfText?_content {path : String} (hpath : IsPath path.toList) (wholePackage : Bool) :
    importOfText? (content (.import path wholePackage)) = some (.import path wholePackage) := by
  have hword : IsWord (word (.import path wholePackage)) := Spellable.isWord hpath
  have hne : path ≠ "" := fun heq => hpath.isWord.ne_nil (String.toList_eq_nil_iff.mpr heq)
  unfold importOfText?
  rw [content, keyword, afterKeyword?_append _ hword, word]
  cases wholePackage with
  | false =>
      have hread : readPath false (path.toList ++ []) = (path.toList, []) := hpath.readPath_eq rfl
      rw [List.append_nil] at hread
      simp [hread, hne, isImportEnd]
  | true =>
      have hread : readPath false (path.toList ++ ['.', '*']) = (path.toList, ['.', '*']) :=
        hpath.readPath_eq (by decide +kernel)
      simp [hread, hne, isImportEnd]

/-- A written instruction is read back. -/
theorem ofContent?_content {i : Instruction} (hi : i.Spellable) :
    ofContent? (String.ofList i.content) = some i := by
  have hword := hi.isWord
  have htrim : Text.trim i.content = i.content := by
    refine trim_keyword i.keyword ?_ hword
    cases i with
    | «import» => exact ⟨'i', by rw [keyword]; rfl, by decide⟩
    | language => exact ⟨'l', by rw [keyword]; rfl, by decide⟩
  rw [ofContent?, String.toList_ofList]
  simp only [htrim]
  cases i with
  | «import» path wholePackage =>
      rw [importOfText?_content hi]
      rfl
  | language name =>
      have hne : name ≠ "" := fun heq => hword.ne_nil (String.toList_eq_nil_iff.mpr heq)
      have hchars : ∀ c ∈ name.toList, isBlank c = false := fun c hc => (hword.chars c hc).1
      unfold importOfText? languageOfText?
      rw [content, keyword, afterKeyword?_import_language, afterKeyword?_append _ hword]
      simpa [word] using ⟨hne, hchars⟩

/-- The instruction as it stands in a document. -/
def markup (i : Instruction) : List Char := '<' :: '?' :: (i.content ++ ['?', '>'])

theorem adds_markup {i : Instruction} (hi : i.Spellable) (opened : List String) :
    Markup.Adds i.markup [.instruction (String.ofList i.content)] opened opened := by
  have hkeyword : '>' ∉ i.keyword.toList ∧ ∃ c cs, i.keyword.toList = c :: cs ∧ c ≠ 'x' := by
    cases i with
    | «import» => exact ⟨by rw [keyword]; decide, 'i', _, by rw [keyword]; rfl, by decide⟩
    | language => exact ⟨by rw [keyword]; decide, 'l', _, by rw [keyword]; rfl, by decide⟩
  obtain ⟨hclose, c, cs, hlist, hfirst⟩ := hkeyword
  refine Markup.adds_instruction ?_ ?_ ?_ opened
  · rw [content, hlist]
    exact List.cons_ne_nil _ _
  · have hword : '>' ∉ i.word := fun hmem => (hi.isWord.chars _ hmem).2 rfl
    simp [content, hclose, hword]
  · rw [content, hlist]
    simp [Markup.isDeclaration, hfirst]

end Instruction

end FxmlCodegen
