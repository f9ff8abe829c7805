import FxmlCodegen.Markup.Attributes
import Mathlib.Data.List.Basic

/-!
# Writing tags

The plainest text for each piece of markup, and that it is read back. A
value is written between double quotes with every character that markup
could take for its own replaced by a reference (`Entity.escape`), so it
may hold anything. Names are made of the characters of `isTagChar`, none
of which means anything to markup.

Reading is local: what a piece gives does not depend on what follows it.
For tags, where the closing bracket is looked for outside quotes, this is
a property of the text (`Closed`) that is kept when texts are put
together. So each piece contributes its one event to the trace, whatever
the text goes on with (`adds_startTag`, `adds_closeTag`,
`adds_instruction`), and again this is kept when pieces are put together
(`Adds.append`).
-/

namespace FxmlCodegen

namespace Text

theorem cutFirst_append {stop : Char} : ∀ {cs : List Char}, stop ∉ cs → ∀ rest : List Char,
    cutFirst [stop] (cs ++ stop :: rest) = some (cs, rest)
  | [], _, rest => by simp [cutFirst]
  | c :: cs, hnot, rest => by
      obtain ⟨hne, hnot⟩ := not_or.mp (List.mem_cons.not.mp hnot)
      rw [List.cons_append, cutFirst, cutFirst_append hnot rest]
      simp [hne]

theorem cutWhen_cons {σ : Type} {stop : σ → Char → Bool} {next : σ → Char → σ} {s : σ} {c : Char}
    (hstop : stop s c = false) (cs : List Char) :
    cutWhen stop next s (c :: cs)
      = (cutWhen stop next (next s c) cs).map fun cut => (c :: cut.1, cut.2) := by
  rw [cutWhen, if_neg (Bool.eq_false_iff.mp hstop)]
  cases cutWhen stop next (next s c) cs <;> rfl

/-- Characters that neither stop the machine nor change its state. -/
theorem cutWhen_append {σ : Type} {stop : σ → Char → Bool} {next : σ → Char → σ} {s : σ} :
    ∀ {cs : List Char}, (∀ c ∈ cs, stop s c = false ∧ next s c = s) → ∀ rest : List Char,
      cutWhen stop next s (cs ++ rest)
        = (cutWhen stop next s rest).map fun cut => (cs ++ cut.1, cut.2)
  | [], _, rest => by simp
  | c :: cs, hpass, rest => by
      obtain ⟨hstop, hnext⟩ := hpass c List.mem_cons_self
      rw [List.cons_append, cutWhen_cons hstop, hnext,
        cutWhen_append (fun d hd => hpass d (List.mem_cons_of_mem c hd)) rest, Option.map_map]
      rfl

theorem dropWhile_eq_self {p : Char → Bool} : ∀ {cs : List Char},
    (∀ c, cs.head? = some c → p c = false) → cs.dropWhile p = cs
  | [], _ => rfl
  | c :: _, hfirst => List.dropWhile_cons_of_neg (Bool.eq_false_iff.mp (hfirst c rfl))

theorem one_le_byteLength {cs : List Char} (hne : cs ≠ []) : 1 ≤ byteLength cs := by
  cases cs with
  | nil => exact absurd rfl hne
  | cons c cs =>
      have hsize : 0 < c.utf8Size := c.utf8Size_pos
      rw [byteLength, List.foldr_cons]
      omega

theorem byteLength_append (cs ds : List Char) :
    byteLength (cs ++ ds) = byteLength cs + byteLength ds := by
  induction cs with
  | nil => simp [byteLength]
  | cons c cs ih =>
      simp only [byteLength, List.cons_append, List.foldr_cons] at ih ⊢
      rw [ih, Nat.add_assoc]

end Text

namespace Markup

/-! ## Values -/

namespace Entity

/-- A character in a value; what markup could take for its own stands as
a reference. -/
def escapeChar : Char → List Char
  | '&' => "&amp;".toList
  | '<' => "&lt;".toList
  | '>' => "&gt;".toList
  | '"' => "&quot;".toList
  | '\'' => "&apos;".toList
  | c => [c]

/-- A value as it is written between quotes. -/
def escape (value : String) : List Char := value.toList.flatMap escapeChar

theorem quote_not_mem_escape (value : String) : '"' ∉ escape value := by
  intro hmem
  obtain ⟨c, -, hc⟩ := List.mem_flatMap.mp hmem
  unfold escapeChar at hc
  split at hc
  case h_6 hquote _ => exact hquote (List.mem_singleton.mp hc).symm
  all_goals revert hc; decide

/-- A written character is read back, wherever it stands. -/
theorem decodeText_escapeChar (total pos : Nat) (c : Char) (cs : List Char) :
    ∃ pos', decodeText total pos (escapeChar c ++ cs) = (decodeText total pos' cs).map (c :: ·) := by
  unfold escapeChar
  split
  case h_6 hamp _ _ _ _ =>
    exact ⟨pos + c.utf8Size, by rw [List.singleton_append, decodeText, if_neg hamp]; rfl⟩
  all_goals exact ⟨_, rfl⟩

theorem decodeText_flatMap_escapeChar (total : Nat) :
    ∀ (cs : List Char) (pos : Nat), decodeText total pos (cs.flatMap escapeChar) = .ok cs
  | [], _ => by rw [List.flatMap_nil, decodeText]
  | c :: cs, pos => by
      obtain ⟨pos', hfirst⟩ := decodeText_escapeChar total pos c (cs.flatMap escapeChar)
      rw [List.flatMap_cons, hfirst, decodeText_flatMap_escapeChar total cs pos']
      rfl

theorem decode_escape (value : String) : decode (escape value) = .ok value := by
  rw [decode, escape, decodeText_flatMap_escapeChar]
  exact congrArg Except.ok String.ofList_toList

end Entity

/-! ## Names -/

/-- The characters of names in tags. -/
def isTagChar (c : Char) : Bool := c.isAlphanum || c = '_' || c = '.' || c = ':'

/-- The text can stand as the name of a tag or the key of an attribute. -/
structure IsTagName (name : String) : Prop where
  ne_empty : name ≠ ""
  all : name.toList.all isTagChar = true

theorem IsTagName.chars {name : String} (hname : IsTagName name) :
    ∀ c ∈ name.toList, isTagChar c = true :=
  List.all_eq_true.mp hname.all

theorem ne_of_isTagChar {c d : Char} (hc : isTagChar c = true) (hd : isTagChar d = false) :
    c ≠ d := by
  rintro rfl
  rw [hc] at hd
  cases hd

theorem isSpace_of_isTagChar {c : Char} (hc : isTagChar c = true) : isSpace c = false := by
  have hblank := ne_of_isTagChar hc (d := ' ') (by decide)
  have hreturn := ne_of_isTagChar hc (d := '\r') (by decide)
  have hfeed := ne_of_isTagChar hc (d := '\n') (by decide)
  have htab := ne_of_isTagChar hc (d := '\t') (by decide)
  simp [isSpace, hblank, hreturn, hfeed, htab]

theorem isKeyChar_of_isTagChar {c : Char} (hc : isTagChar c = true) : isKeyChar c = true := by
  simp [isKeyChar, isSpace_of_isTagChar hc, ne_of_isTagChar hc (d := '=') (by decide)]

theorem IsTagName.exists_cons {name : String} (hname : IsTagName name) :
    ∃ c cs, name.toList = c :: cs ∧ isTagChar c = true ∧ ∀ d ∈ cs, isTagChar d = true := by
  cases hlist : name.toList with
  | nil => exact absurd (String.toList_eq_nil_iff.mp hlist) hname.ne_empty
  | cons c cs =>
      have hchars := hname.chars
      rw [hlist] at hchars
      exact ⟨c, cs, rfl, hchars c List.mem_cons_self, fun d hd => hchars d (List.mem_cons_of_mem c hd)⟩

/-! ## Attributes -/

/-- An attribute with the blank before it. -/
def writePair (pair : String × String) : List Char :=
  ' ' :: (pair.1.toList ++ '=' :: '"' :: (Entity.escape pair.2 ++ ['"']))

def writePairs (pairs : List (String × String)) : List Char := pairs.flatMap writePair

theorem readValue_quoted (total pos : Nat) {value : List Char} (hvalue : '"' ∉ value)
    (rest : List Char) :
    readValue total pos ('"' :: (value ++ '"' :: rest))
      = .ok (value, pos + 1 + Text.byteLength value + 1, rest) := by
  unfold readValue
  simp [isSpace, Text.cutFirst_append hvalue rest]

theorem readKeyed_quoted (total : Nat) {seen : List (String × Nat)} (pos : Nat) {first : Char}
    {key value : List Char} (hkey : ∀ c ∈ key, isTagChar c = true)
    (hseen : seen.lookup (String.ofList (first :: key)) = none) (hvalue : '"' ∉ value)
    (rest : List Char) :
    ∃ pos', readKeyed total seen pos first (key ++ '=' :: '"' :: (value ++ '"' :: rest))
      = .ok ⟨String.ofList (first :: key), pos, value, pos', rest⟩ := by
  have hchars : ∀ c ∈ key, isKeyChar c = true := fun c hc => isKeyChar_of_isTagChar (hkey c hc)
  have htake : (key ++ '=' :: '"' :: (value ++ '"' :: rest)).takeWhile isKeyChar = key := by
    rw [List.takeWhile_append_of_pos hchars]
    simp [isKeyChar]
  have hdrop : (key ++ '=' :: '"' :: (value ++ '"' :: rest)).dropWhile isKeyChar
      = '=' :: '"' :: (value ++ '"' :: rest) := by
    rw [List.dropWhile_append_of_pos hchars]
    simp [isKeyChar]
  have hequals : ('=' :: '"' :: (value ++ '"' :: rest)).dropWhile isSpace
      = '=' :: '"' :: (value ++ '"' :: rest) := rfl
  unfold readKeyed
  simp only [htake, hdrop, hequals, if_true, hseen, readValue_quoted total _ hvalue rest]
  exact ⟨_, rfl⟩

/-- A written attribute is read, and its raw value is the escaped one. -/
theorem readAttribute_writePair (total : Nat) {seen : List (String × Nat)} (pos : Nat)
    {pair : String × String} (hkey : IsTagName pair.1) (hseen : seen.lookup pair.1 = none)
    (rest : List Char) :
    ∃ pos', readAttribute total seen pos (writePair pair ++ rest)
      = .ok (some ⟨pair.1, pos + 1, Entity.escape pair.2, pos', rest⟩) := by
  obtain ⟨c, cs, hlist, hc, hcs⟩ := hkey.exists_cons
  have hstring : String.ofList (c :: cs) = pair.1 := by rw [← hlist, String.ofList_toList]
  rw [← hstring] at hseen
  obtain ⟨pos', hkeyed⟩ := readKeyed_quoted total (pos + 1) hcs hseen
    (Entity.quote_not_mem_escape pair.2) rest
  refine ⟨pos', ?_⟩
  have htext : writePair pair ++ rest
      = ' ' :: c :: (cs ++ '=' :: '"' :: (Entity.escape pair.2 ++ '"' :: rest)) := by
    simp [writePair, hlist]
  have hblank : isSpace ' ' = true := rfl
  have hfirst : isSpace c = false := isSpace_of_isTagChar hc
  rw [hstring] at hkeyed
  unfold readAttribute
  simp only [htext, List.dropWhile_cons, List.takeWhile_cons, hblank, hfirst, if_true,
    Bool.false_eq_true, if_false, List.length_cons, List.length_nil, Nat.zero_add, hkeyed]
  rfl

/-- Written attributes are read, whatever is known of the tag before
them. -/
theorem readAttributes_writePairs (total : Nat) :
    ∀ {pairs : List (String × String)} {seen : List (String × Nat)} (pos : Nat),
      (∀ pair ∈ pairs, IsTagName pair.1 ∧ seen.lookup pair.1 = none) → (pairs.map Prod.fst).Nodup →
      readAttributes total seen pos (writePairs pairs) = .ok pairs
  | [], seen, pos, _, _ => by
      rw [readAttributes]
      rfl
  | pair :: pairs, seen, pos, hkeys, hnodup => by
      obtain ⟨hkey, hseen⟩ := hkeys pair List.mem_cons_self
      obtain ⟨hnot, hnodup⟩ := List.nodup_cons.mp hnodup
      obtain ⟨pos', hread⟩ := readAttribute_writePair total pos hkey hseen (writePairs pairs)
      have hrest : readAttributes total ((pair.1, pos + 1) :: seen) pos' (writePairs pairs)
          = .ok pairs := by
        refine readAttributes_writePairs total pos' (fun other hother => ?_) hnodup
        obtain ⟨hkey', hseen'⟩ := hkeys other (List.mem_cons_of_mem pair hother)
        -- The key just read is none of those still to come.
        have hne : other.1 ≠ pair.1 := fun heq => hnot (heq ▸ List.mem_map_of_mem hother)
        exact ⟨hkey', by rw [List.lookup_cons, beq_false_of_ne hne]; exact hseen'⟩
      rw [writePairs, List.flatMap_cons, ← writePairs, readAttributes]
      split
      · rename_i hfault
        rw [hread] at hfault
        cases hfault
      · rename_i hnone
        rw [hread] at hnone
        cases hnone
      · rename_i a ha
        rw [hread] at ha
        cases ha
        rw [Entity.decode_escape, hrest]

/-! ## Tags -/

/-- The tag with this name and these attributes. -/
def Tag.ofPairs (name : String) (pairs : List (String × String)) : Tag where
  name := name
  body := String.ofList (writePairs pairs)

theorem Tag.attributes_ofPairs (name : String) {pairs : List (String × String)}
    (hkeys : ∀ pair ∈ pairs, IsTagName pair.1) (hnodup : (pairs.map Prod.fst).Nodup) :
    (Tag.ofPairs name pairs).attributes = .ok pairs := by
  rw [Tag.attributes, ofPairs]
  simp only [String.toList_ofList]
  exact readAttributes_writePairs _ _ (fun pair hpair => ⟨hkeys pair hpair, rfl⟩) hnodup

/-- The bracket that closes a tag is not inside the text: it is looked for
behind. -/
def Closed (text : List Char) : Prop :=
  ∀ rest, cutTag (text ++ rest) = (cutTag rest).map fun cut => (text ++ cut.1, cut.2)

theorem Closed.append {text text' : List Char} (h : Closed text) (h' : Closed text') :
    Closed (text ++ text') := by
  intro rest
  rw [List.append_assoc, h, h', Option.map_map]
  simp only [Function.comp_def, List.append_assoc]

theorem closed_plain {text : List Char} (hplain : ∀ c ∈ text, isTagChar c = true ∨ c = ' ' ∨ c = '=') :
    Closed text := by
  intro rest
  refine Text.cutWhen_append (fun c hc => ?_) rest
  have hnot : ∀ d, d = '>' ∨ d = '"' ∨ d = '\'' → c ≠ d := by
    rintro d hd rfl
    have hmarks := hplain c hc
    rcases hd with rfl | rfl | rfl <;> revert hmarks <;> decide
  simp [hnot '>' (by simp), hnot '"' (by simp), hnot '\'' (by simp)]

theorem closed_quoted {value : List Char} (hvalue : '"' ∉ value) :
    Closed ('"' :: (value ++ ['"'])) := by
  intro rest
  have hinside : ∀ c ∈ value, c ≠ '"' := fun c hc heq => hvalue (heq ▸ hc)
  rw [cutTag, List.cons_append, List.append_assoc, List.singleton_append,
    Text.cutWhen_cons (by decide), Text.cutWhen_append (fun c hc => by simp [hinside c hc]),
    Text.cutWhen_cons (by decide), Option.map_map, Option.map_map]
  simp only [Function.comp_def, List.cons_append, List.append_assoc, List.nil_append]
  rfl

theorem closed_writePair {pair : String × String} (hkey : IsTagName pair.1) :
    Closed (writePair pair) := by
  have hblank : Closed [' '] := closed_plain (by simp)
  have hkey : Closed pair.1.toList := closed_plain fun c hc => Or.inl (hkey.chars c hc)
  have hequals : Closed ['='] := closed_plain (by simp)
  exact hblank.append (hkey.append (hequals.append (closed_quoted (Entity.quote_not_mem_escape _))))

theorem closed_writePairs : ∀ {pairs : List (String × String)}, (∀ pair ∈ pairs, IsTagName pair.1) →
    Closed (writePairs pairs)
  | [], _ => closed_plain fun c hc => (List.not_mem_nil hc).elim
  | pair :: pairs, hkeys => by
      rw [writePairs, List.flatMap_cons]
      exact (closed_writePair (hkeys pair List.mem_cons_self)).append
        (closed_writePairs fun other hother => hkeys other (List.mem_cons_of_mem pair hother))

theorem getLast?_writePairs : ∀ pairs : List (String × String),
    (writePairs pairs).getLast? = none ∨ (writePairs pairs).getLast? = some '"'
  | [] => Or.inl rfl
  | pair :: pairs => by
      have hfirst : (writePair pair).getLast? = some '"' := by
        simp [writePair, List.getLast?_cons]
      rw [writePairs, List.flatMap_cons, List.getLast?_append, ← writePairs]
      rcases getLast?_writePairs pairs with hlast | hlast
      · rw [hlast, Option.none_or]
        exact Or.inr hfirst
      · rw [hlast]
        exact Or.inr rfl

/-- The text in the brackets of a written tag is that tag. -/
theorem Tag.ofContent_append {name : String} (hname : IsTagName name)
    (pairs : List (String × String)) :
    Tag.ofContent (name.toList ++ writePairs pairs) = Tag.ofPairs name pairs := by
  have hchars : ∀ c ∈ name.toList, (!isSpace c) = true := fun c hc => by
    rw [isSpace_of_isTagChar (hname.chars c hc)]
    rfl
  have hblank : (writePairs pairs).takeWhile (!isSpace ·) = []
      ∧ (writePairs pairs).dropWhile (!isSpace ·) = writePairs pairs := by
    cases pairs <;> exact ⟨rfl, rfl⟩
  rw [ofContent, ofPairs, List.takeWhile_append_of_pos hchars, List.dropWhile_append_of_pos hchars,
    hblank.1, hblank.2, List.append_nil, String.ofList_toList]

/-- What starts with a name is a tag. -/
theorem readPiece_eq_readTag (pos : Nat) {name : String} (hname : IsTagName name)
    (rest : List Char) : readPiece pos (name.toList ++ rest) = readTag pos (name.toList ++ rest) := by
  obtain ⟨c, cs, hlist, hc, -⟩ := hname.exists_cons
  rw [hlist, List.cons_append, readPiece]
  · exact fun _ heq => ne_of_isTagChar hc (by decide) (List.cons.inj heq).1
  · exact fun _ heq => ne_of_isTagChar hc (by decide) (List.cons.inj heq).1
  · exact fun _ heq => ne_of_isTagChar hc (by decide) (List.cons.inj heq).1

theorem readPiece_startTag (pos : Nat) {name : String} (hname : IsTagName name)
    {pairs : List (String × String)} (hkeys : ∀ pair ∈ pairs, IsTagName pair.1) (rest : List Char) :
    ∃ pos', readPiece pos (name.toList ++ (writePairs pairs ++ '>' :: rest))
      = .ok ⟨.event (.start (Tag.ofPairs name pairs)), pos', rest⟩ := by
  have hclosed : Closed (name.toList ++ writePairs pairs) :=
    (closed_plain fun c hc => Or.inl (hname.chars c hc)).append (closed_writePairs hkeys)
  have hcut : cutTag (name.toList ++ (writePairs pairs ++ '>' :: rest))
      = some (name.toList ++ writePairs pairs, rest) := by
    rw [← List.append_assoc, hclosed]
    simp [cutTag, Text.cutWhen]
  have hslash : (name.toList ++ writePairs pairs).getLast? ≠ some '/' := by
    rw [List.getLast?_append]
    rcases getLast?_writePairs pairs with hlast | hlast
    · rw [hlast, Option.none_or]
      intro heq
      exact ne_of_isTagChar (hname.chars _ (List.mem_of_getLast? heq)) (by decide) rfl
    · rw [hlast, Option.some_or]
      decide
  rw [readPiece_eq_readTag pos hname, readTag, hcut]
  simp only [if_neg hslash, Tag.ofContent_append hname]
  exact ⟨_, rfl⟩

theorem readPiece_closeTag (pos : Nat) {name : String} (hname : IsTagName name) (rest : List Char) :
    ∃ pos', readPiece pos ('/' :: (name.toList ++ '>' :: rest))
      = .ok ⟨.close name.toList (pos + 1), pos', rest⟩ := by
  have hnot : '>' ∉ name.toList := fun hmem =>
    ne_of_isTagChar (hname.chars _ hmem) (by decide) rfl
  rw [readPiece, readClose, upTo, Text.cutFirst_append hnot]
  exact ⟨_, rfl⟩

/-- Closing names are found as they are written. -/
theorem closingName_of_isTagName {name : String} (hname : IsTagName name) :
    closingName name.toList = name.toList := by
  obtain ⟨c, cs, hlist, hc, -⟩ := hname.exists_cons
  have hspaces : ¬ (name.toList.all isSpace = true) := by
    rw [hlist, List.all_cons, isSpace_of_isTagChar hc]
    exact Bool.false_ne_true
  have hdrop : name.toList.reverse.dropWhile isSpace = name.toList.reverse :=
    Text.dropWhile_eq_self fun d hd => isSpace_of_isTagChar
      (hname.chars d (List.mem_reverse.mp (List.mem_of_mem_head? hd)))
  rw [closingName, if_neg hspaces, hdrop, List.reverse_reverse]

theorem readPiece_instruction (pos : Nat) {content : List Char} (hne : content ≠ [])
    (hclose : '>' ∉ content) (hxml : isDeclaration (content ++ ['?']) = false) (rest : List Char) :
    ∃ pos', readPiece pos ('?' :: (content ++ '?' :: '>' :: rest))
      = .ok ⟨.event (.instruction (String.ofList content)), pos', rest⟩ := by
  have hcut : Text.cutFirst ['>'] (content ++ '?' :: '>' :: rest) = some (content ++ ['?'], rest) := by
    have hend : '>' ∉ content ++ ['?'] := by simp [hclose]
    rw [← Text.cutFirst_append hend rest, List.append_assoc, List.singleton_append]
  have hlength : ¬ Text.byteLength (content ++ ['?']) < 2 := by
    have hone := Text.one_le_byteLength hne
    have hmark : Text.byteLength ['?'] = 1 := rfl
    rw [Text.byteLength_append]
    omega
  rw [readPiece, readInstruction, upTo, hcut]
  simp [hlength, hxml]

/-! ## Traces -/

/-- The trace of a text with these events in front. -/
def Trace.prepend (events : List Event) (t : Trace) : Trace := ⟨events ++ t.events, t.fault⟩

/-- The events are what the text adds to a trace, wherever it stands
between the tags `opened` and `opened'`. -/
def Adds (text : List Char) (events : List Event) (opened opened' : List String) : Prop :=
  ∀ pos rest, ∃ pos', traceFrom opened pos (text ++ rest)
    = (traceFrom opened' pos' rest).prepend events

theorem Adds.nil (opened : List String) : Adds [] [] opened opened :=
  fun pos _ => ⟨pos, rfl⟩

theorem Adds.append {text text' : List Char} {events events' : List Event}
    {opened opened' opened'' : List String} (h : Adds text events opened opened')
    (h' : Adds text' events' opened' opened'') :
    Adds (text ++ text') (events ++ events') opened opened'' := by
  intro pos rest
  obtain ⟨pos', hfirst⟩ := h pos (text' ++ rest)
  obtain ⟨pos'', hsecond⟩ := h' pos' rest
  refine ⟨pos'', ?_⟩
  rw [List.append_assoc, hfirst, hsecond]
  simp only [Trace.prepend, List.append_assoc]

section Step

variable {opened : List String} {pos pos' : Nat} {c : Char} {cs rest : List Char}

theorem cutFirst_bracket (cs : List Char) : Text.cutFirst ['<'] ('<' :: cs) = some ([], cs) := by
  simp [Text.cutFirst]

theorem traceFrom_start {tag : Tag}
    (hread : readPiece (pos + 1) (c :: cs) = .ok ⟨.event (.start tag), pos', rest⟩) :
    traceFrom opened pos ('<' :: c :: cs)
      = (traceFrom (tag.name :: opened) pos' rest).cons (.start tag) := by
  rw [traceFrom, cutFirst_bracket]
  dsimp only
  split <;> (rename_i heq; cases heq.symm.trans hread)
  · rfl
  · rename_i hstart
    exact (hstart _ rfl).elim

theorem traceFrom_close {name : String} {raw : List Char} {offset : Nat}
    (hread : readPiece (pos + 1) (c :: cs) = .ok ⟨.close raw offset, pos', rest⟩)
    (hname : String.ofList (closingName raw) = name) :
    traceFrom (name :: opened) pos ('<' :: c :: cs) = (traceFrom opened pos' rest).cons .close := by
  rw [traceFrom, cutFirst_bracket]
  dsimp only
  split <;> (rename_i heq; cases heq.symm.trans hread)
  rw [if_pos hname]

theorem traceFrom_event {event : Event}
    (hread : readPiece (pos + 1) (c :: cs) = .ok ⟨.event event, pos', rest⟩)
    (hstart : ∀ tag, event ≠ .start tag) :
    traceFrom opened pos ('<' :: c :: cs) = (traceFrom opened pos' rest).cons event := by
  rw [traceFrom, cutFirst_bracket]
  dsimp only
  split <;> (rename_i heq; cases heq.symm.trans hread)
  · exact (hstart _ rfl).elim
  · rfl

end Step

theorem adds_startTag {name : String} (hname : IsTagName name) {pairs : List (String × String)}
    (hkeys : ∀ pair ∈ pairs, IsTagName pair.1) (opened : List String) :
    Adds ('<' :: (name.toList ++ (writePairs pairs ++ ['>']))) [.start (Tag.ofPairs name pairs)]
      opened (name :: opened) := by
  intro pos rest
  obtain ⟨pos', hread⟩ := readPiece_startTag (pos + 1) hname hkeys rest
  obtain ⟨c, cs, hlist, -, -⟩ := hname.exists_cons
  simp only [List.cons_append, List.append_assoc, List.nil_append]
  rw [hlist, List.cons_append] at hread ⊢
  exact ⟨pos', traceFrom_start hread⟩

theorem adds_closeTag {name : String} (hname : IsTagName name) (opened : List String) :
    Adds ('<' :: '/' :: (name.toList ++ ['>'])) [.close] (name :: opened) opened := by
  intro pos rest
  obtain ⟨pos', hread⟩ := readPiece_closeTag (pos + 1) hname rest
  have hclosing : String.ofList (closingName name.toList) = name := by
    rw [closingName_of_isTagName hname, String.ofList_toList]
  simp only [List.cons_append, List.append_assoc, List.nil_append]
  exact ⟨pos', traceFrom_close hread hclosing⟩

theorem adds_instruction {content : List Char} (hne : content ≠ []) (hclose : '>' ∉ content)
    (hxml : isDeclaration (content ++ ['?']) = false) (opened : List String) :
    Adds ('<' :: '?' :: (content ++ ['?', '>'])) [.instruction (String.ofList content)]
      opened opened := by
  intro pos rest
  obtain ⟨pos', hread⟩ := readPiece_instruction (pos + 1) hne hclose hxml rest
  simp only [List.cons_append, List.append_assoc, List.nil_append]
  exact ⟨pos', traceFrom_event hread (fun tag heq => by cases heq)⟩

/-- A text that closes what it opens has the events it adds. -/
theorem Adds.trace {text : List Char} {events : List Event} (h : Adds text events [] [])
    (hmark : text.head? ≠ some '\uFEFF') : trace (String.ofList text) = ⟨events, none⟩ := by
  obtain ⟨pos', htrace⟩ := h 0 []
  have hend : traceFrom [] pos' [] = .done := by
    rw [traceFrom]
    rfl
  rw [List.append_nil, hend, Trace.prepend, Trace.done, List.append_nil] at htrace
  rw [Markup.trace, String.toList_ofList]
  split
  · exact (hmark rfl).elim
  · exact htrace

end Markup

end FxmlCodegen
