import FxmlCodegen.Proofs.ProperExpressions

/-!
# The text of an expression determines it

Two proper expressions with the same text are the same, but for fields that
are written as qualified names. The proof is a reader: `Reader.whole` gives
back the expression from its text, with fields for qualified names.

A scope stands to the left of what is selected from it, so the reader takes
the innermost scope first and then selects, name by name. Accordingly
`ReadsScope` says that a text is read as far as a scope goes and that
selecting goes on from there, whatever follows; `Reads` says that a text is
read as an expression that nothing is selected from. There is one lemma for
each kind of node, about any text of its parts, and the induction over the
expression (`Expr.IsOperand.reads`) only puts them together.

What may be mistaken for something else is settled in these lemmas: a type
in parentheses makes a cast if more than the end of an expression follows, a
name makes a call if arguments follow, and the name `class` after a dot is
no field.
-/

namespace FxmlCodegen.Java

/-! ## The reader -/

namespace Reader

def unescape? : Char → Option Char
  | '"' => some '"'
  | '\\' => some '\\'
  | 'n' => some '\n'
  | 'r' => some '\r'
  | 't' => some '\t'
  | _ => none

/-- The value of a string literal after its opening quote. -/
def quoted : List Char → Option (List Char × List Char)
  | [] => none
  | '"' :: cs => some ([], cs)
  | '\\' :: c :: cs => do
    let c ← unescape? c
    let (value, rest) ← quoted cs
    some (c :: value, rest)
  | c :: cs => do
    let (value, rest) ← quoted cs
    some (c :: value, rest)

/-- The longest run of such characters. -/
def run (p : Char → Bool) (cs : List Char) : String × List Char :=
  (String.ofList (cs.takeWhile p), cs.dropWhile p)

/-- What is cast if this follows a parenthesis that closes. -/
def castValue? : List Char → Option (List Char)
  | ' ' :: '=' :: _ => none
  | ' ' :: cs => some cs
  | _ => none

mutual

/-- The expression at the start of a text. The number bounds how deep the
calls go; one more than the length of the text is enough. -/
def expr : Nat → List Char → Option (Expr × List Char)
  | 0, _ => none
  | _ + 1, [] => none
  | n + 1, c :: cs =>
    if c = '"' then do
      let (value, rest) ← quoted cs
      select n (.string (String.ofList value)) rest
    else if c = '(' then do
      let (inner, rest) ← expr n cs
      match rest with
      | ')' :: rest =>
        match castValue? rest with
        | some cs => do
          let (value, rest) ← expr n cs
          some (.cast inner.render value, rest)
        | none => select n (.paren inner) rest
      | _ => none
    else if c.isDigit then
      let (literal, rest) := run isTypeChar (c :: cs)
      some (.double literal, rest)
    else
      let (word, rest) := run isNameChar (c :: cs)
      if word = "" then none
      else if word = "null" then select n .null rest
      else if word = "this" then select n .this rest
      else if word = "new" then do
        let (type, rest) := run isTypeChar (rest.drop 1)
        let (args, rest) ← args n rest
        select n (.new type args) rest
      else if rest.head? = some '(' then do
        let (args, rest) ← args n rest
        select n (.call none word args) rest
      else select n (.name word) rest

/-- What is selected from an expression by the text after it. -/
def select : Nat → Expr → List Char → Option (Expr × List Char)
  | 0, _, _ => none
  | n + 1, e, '.' :: cs =>
    let (word, rest) := run isNameChar cs
    if word = "class" then select n (.classOf e.render) rest
    else if rest.head? = some '(' then do
      let (args, rest) ← args n rest
      select n (.call (some e) word args) rest
    else select n (.field e word) rest
  | _ + 1, e, ':' :: ':' :: cs =>
    let (word, rest) := run isNameChar cs
    some (.methodRef e word, rest)
  | _ + 1, e, cs => some (e, cs)

/-- An argument list with its parentheses. -/
def args : Nat → List Char → Option (List Expr × List Char)
  | 0, _ => none
  | _ + 1, '(' :: ')' :: cs => some ([], cs)
  | n + 1, '(' :: cs => do
    let (arg, rest) ← expr n cs
    let (args, rest) ← moreArgs n rest
    some (arg :: args, rest)
  | _ + 1, _ => none

/-- What follows an argument, through the closing parenthesis. -/
def moreArgs : Nat → List Char → Option (List Expr × List Char)
  | 0, _ => none
  | _ + 1, ')' :: cs => some ([], cs)
  | n + 1, ',' :: ' ' :: cs => do
    let (arg, rest) ← expr n cs
    let (args, rest) ← moreArgs n rest
    some (arg :: args, rest)
  | _ + 1, _ => none

end

/-- The expression that a whole text is. -/
def whole (cs : List Char) : Option Expr :=
  match expr (cs.length + 1) cs with
  | some (e, []) => some e
  | some (target, ' ' :: '=' :: ' ' :: cs) =>
    match expr (cs.length + 1) cs with
    | some (value, []) => some (.assign target value)
    | _ => none
  | _ => none

/-! ## Runs and quotes -/

theorem run_append {p : Char → Bool} {s : String} {rest : List Char}
    (hs : ∀ c ∈ s.toList, p c = true) (hrest : ∀ c, rest.head? = some c → p c = false) :
    run p (s.toList ++ rest) = (s, rest) := by
  have hstop : rest.takeWhile p = [] ∧ rest.dropWhile p = rest := by
    cases rest with
    | nil => exact ⟨rfl, rfl⟩
    | cons c rest => simp [hrest c rfl]
  rw [run, List.takeWhile_append_of_pos hs, List.dropWhile_append_of_pos hs, hstop.1, hstop.2,
    List.append_nil, String.ofList_toList]

/-- A character is escaped by one that stands for it, or stands for itself. -/
theorem escapeChar_cases (c : Char) :
    (∃ d, escapeChar c = ['\\', d] ∧ unescape? d = some c)
      ∨ escapeChar c = [c] ∧ c ≠ '"' ∧ c ≠ '\\' := by
  by_cases hquote : c = '"'
  · subst hquote
    exact .inl ⟨'"', rfl, rfl⟩
  by_cases hbackslash : c = '\\'
  · subst hbackslash
    exact .inl ⟨'\\', rfl, rfl⟩
  by_cases hline : c = '\n'
  · subst hline
    exact .inl ⟨'n', rfl, rfl⟩
  by_cases hreturn : c = '\r'
  · subst hreturn
    exact .inl ⟨'r', rfl, rfl⟩
  by_cases htab : c = '\t'
  · subst htab
    exact .inl ⟨'t', rfl, rfl⟩
  · refine .inr ⟨?_, hquote, hbackslash⟩
    rw [escapeChar, if_neg hquote, if_neg hbackslash, if_neg hline, if_neg hreturn, if_neg htab]

theorem quoted_escapeChar (c : Char) (cs : List Char) :
    quoted (escapeChar c ++ cs) = (quoted cs).map fun read => (c :: read.1, read.2) := by
  rcases escapeChar_cases c with ⟨d, hescape, hd⟩ | ⟨hself, hquote, hbackslash⟩
  · rw [hescape, List.cons_append, List.singleton_append, quoted, hd]
    cases quoted cs <;> rfl
  · rw [hself, List.singleton_append, quoted]
    · cases quoted cs <;> rfl
    · exact hquote
    · exact fun _ _ hc _ => hbackslash hc

/-- The text of a string literal after its opening quote. -/
theorem quoted_flatMap_escapeChar (rest : List Char) : ∀ value : List Char,
    quoted (value.flatMap escapeChar ++ '"' :: rest) = some (value, rest)
  | [] => rfl
  | c :: value => by
      rw [List.flatMap_cons, List.append_assoc, quoted_escapeChar,
        quoted_flatMap_escapeChar rest value]
      rfl

/-! ## Reading on -/

/-- What may follow an expression. -/
inductive Ends : List Char → Prop
  | nothing : Ends []
  | close (rest : List Char) : Ends (')' :: rest)
  | comma (rest : List Char) : Ends (',' :: rest)
  | equals (rest : List Char) : Ends (' ' :: '=' :: rest)

/-- What may follow a scope. -/
inductive Follows : List Char → Prop
  | ends {rest : List Char} (h : Ends rest) : Follows rest
  | dot (rest : List Char) : Follows ('.' :: rest)
  | colons (rest : List Char) : Follows (':' :: ':' :: rest)

/-- The text is read as the expression, whatever ends it. -/
def Reads (text : String) (e : Expr) : Prop :=
  ∀ n rest, Ends rest → (text.toList ++ rest).length < n →
    expr n (text.toList ++ rest) = some (e, rest)

/-- The text is read as the scope, and then what is selected from it. -/
def ReadsScope (text : String) (e : Expr) : Prop :=
  ∀ n rest, Follows rest → (text.toList ++ rest).length < n →
    ∃ m, rest.length < m ∧ expr n (text.toList ++ rest) = select m e rest

theorem Ends.isTypeChar_eq_false {rest : List Char} (h : Ends rest) (c : Char)
    (hc : rest.head? = some c) : isTypeChar c = false := by
  cases h <;> cases hc <;> decide

namespace Follows

variable {rest : List Char} (h : Follows rest)

include h

theorem isNameChar_eq_false (c : Char) (hc : rest.head? = some c) : isNameChar c = false := by
  rcases h with ⟨_ | _ | _ | _⟩ | _ | _ <;> cases hc <;> decide

theorem head?_ne : rest.head? ≠ some '(' := by
  rcases h with ⟨_ | _ | _ | _⟩ | _ | _ <;> simp

theorem castValue?_eq_none : castValue? rest = none := by
  rcases h with ⟨_ | _ | _ | _⟩ | _ | _ <;> rfl

end Follows

theorem select_ends {n : Nat} {rest : List Char} (hrest : Ends rest) (hn : rest.length < n)
    (e : Expr) : select n e rest = some (e, rest) := by
  obtain _ | n := n
  · cases hn
  · cases hrest <;> rfl

theorem ReadsScope.reads {text : String} {e : Expr} (h : ReadsScope text e) : Reads text e := by
  intro n rest hrest hn
  obtain ⟨m, hm, hread⟩ := h n rest (.ends hrest) hn
  rw [hread, select_ends hrest hm]

/-- What is read does not start like the rest of an assignment or of an
argument list. -/
theorem Reads.exists_cons {text : String} {e : Expr} (h : Reads text e) :
    ∃ c cs, text.toList = c :: cs ∧ c ≠ '=' ∧ c ≠ ')' := by
  have hread := h (text.toList.length + 1) [] .nothing (by simp)
  rw [List.append_nil] at hread
  cases htext : text.toList with
  | nil =>
      rw [htext] at hread
      cases hread
  | cons c cs =>
      rw [htext] at hread
      refine ⟨c, cs, rfl, ?_, ?_⟩
      · rintro rfl
        cases hread
      · rintro rfl
        cases hread

theorem length_toList_pos {s : String} (hs : s ≠ "") : 0 < s.toList.length := by
  rw [List.length_pos_iff]
  exact fun hnil => hs (String.toList_inj.mp hnil)

/-- One step of the reader takes the scope, and so some of the text. -/
theorem readsScope_of_expr_eq {text : String} {e : Expr} (htext : text ≠ "")
    (h : ∀ n rest, Follows rest → (text.toList ++ rest).length ≤ n →
      expr (n + 1) (text.toList ++ rest) = select n e rest) :
    ReadsScope text e := by
  intro n rest hrest hn
  obtain _ | n := n
  · cases hn
  · have hpos := length_toList_pos htext
    refine ⟨n, ?_, h n rest hrest (Nat.lt_succ_iff.mp hn)⟩
    rw [List.length_append] at hn
    omega

/-! ## Arguments -/

theorem head?_renderArgs (es : List Expr) (rest : List Char) :
    ((renderArgs es).toList ++ rest).head? = some '(' := by
  cases es with
  | nil => rfl
  | cons e es => simp [renderArgs]

theorem toList_renderMoreArgs_cons (e : Expr) (es : List Expr) (rest : List Char) :
    (renderMoreArgs (e :: es)).toList ++ rest
      = ',' :: ' ' :: (e.render.toList ++ ((renderMoreArgs es).toList ++ rest)) := by
  simp [renderMoreArgs]

theorem ends_renderMoreArgs (es : List Expr) (rest : List Char) :
    Ends ((renderMoreArgs es).toList ++ rest) := by
  cases es with
  | nil => exact .close rest
  | cons e es =>
      rw [toList_renderMoreArgs_cons]
      exact .comma _

theorem moreArgs_renderMoreArgs (rest : List Char) : ∀ (n : Nat) (es : List Expr),
    (∀ e ∈ es, Reads e.render e.asFields) → ((renderMoreArgs es).toList ++ rest).length < n →
      moreArgs n ((renderMoreArgs es).toList ++ rest) = some (allAsFields es, rest)
  | 0, _, _, hn => nomatch hn
  | n + 1, [], _, _ => rfl
  | n + 1, e :: es, hes, hn => by
      rw [toList_renderMoreArgs_cons] at hn ⊢
      simp only [List.length_cons, List.length_append] at hn
      have hfirst := hes e List.mem_cons_self n _ (ends_renderMoreArgs es rest)
        (by simp only [List.length_append]; omega)
      have hmore := moreArgs_renderMoreArgs rest n es
        (fun other hother => hes other (List.mem_cons_of_mem e hother))
        (by rw [List.length_append]; omega)
      simp only [moreArgs, hfirst, hmore, Option.bind_eq_bind, Option.bind_some, allAsFields]

theorem args_renderArgs {n : Nat} {rest : List Char} {es : List Expr}
    (hes : ∀ e ∈ es, Reads e.render e.asFields)
    (hn : ((renderArgs es).toList ++ rest).length < n) :
    args n ((renderArgs es).toList ++ rest) = some (allAsFields es, rest) := by
  obtain _ | n := n
  · cases hn
  cases es with
  | nil => rfl
  | cons e es =>
      have htext : (renderArgs (e :: es)).toList ++ rest
          = '(' :: (e.render.toList ++ ((renderMoreArgs es).toList ++ rest)) := by
        simp [renderArgs]
      rw [htext] at hn ⊢
      simp only [List.length_cons, List.length_append] at hn
      have hfirst := hes e List.mem_cons_self n _ (ends_renderMoreArgs es rest)
        (by simp only [List.length_append]; omega)
      have hmore := moreArgs_renderMoreArgs rest n es
        (fun other hother => hes other (List.mem_cons_of_mem e hother))
        (by rw [List.length_append]; omega)
      -- The first argument is not the parenthesis that closes an empty list.
      obtain ⟨c, cs, hcons, -, hclose⟩ := (hes e List.mem_cons_self).exists_cons
      rw [hcons, List.cons_append] at hfirst ⊢
      rw [args]
      · simp only [hfirst, hmore, Option.bind_eq_bind, Option.bind_some, allAsFields]
      · rintro _ ⟨⟩
        exact hclose rfl

/-! ## Words -/

/-- A word at the start of a text. -/
theorem expr_word {s : String} {rest : List Char} (hs : isWord s = true)
    (hrest : ∀ c, rest.head? = some c → isNameChar c = false) (n : Nat) :
    expr (n + 1) (s.toList ++ rest) =
      if s = "null" then select n .null rest
      else if s = "this" then select n .this rest
      else if s = "new" then do
        let (type, rest) := run isTypeChar (rest.drop 1)
        let (args, rest) ← args n rest
        select n (.new type args) rest
      else if rest.head? = some '(' then do
        let (args, rest) ← args n rest
        select n (.call none s args) rest
      else select n (.name s) rest := by
  obtain ⟨⟨c, cs, hcons, hdigit⟩, hname⟩ := isWord_iff.mp hs
  have hrun := run_append hname hrest
  have hc : isNameChar c = true := hname c (hcons ▸ List.mem_cons_self)
  have hquote : c ≠ '"' := by rintro rfl; cases hc
  have hopen : c ≠ '(' := by rintro rfl; cases hc
  rw [hcons, List.cons_append] at hrun ⊢
  simp only [expr, if_neg hquote, if_neg hopen, hdigit, hrun, if_neg (ne_empty_of_isWord hs)]
  rfl

/-- A name at the start of a text. -/
theorem expr_identifier {name : String} {rest : List Char} (hname : isIdentifier name = true)
    (hrest : ∀ c, rest.head? = some c → isNameChar c = false) (n : Nat) :
    expr (n + 1) (name.toList ++ rest) =
      if rest.head? = some '(' then do
        let (args, rest) ← args n rest
        select n (.call none name args) rest
      else select n (.name name) rest := by
  obtain ⟨hword, hkeyword⟩ := isIdentifier_iff.mp hname
  simp only [keywords, List.mem_cons, not_or] at hkeyword
  obtain ⟨hnull, hthis, hnew, -⟩ := hkeyword
  rw [expr_word hword hrest, if_neg hnull, if_neg hthis, if_neg hnew]

/-- A name after a dot. -/
theorem select_dot {name : String} {rest : List Char} (hname : isIdentifier name = true)
    (hrest : ∀ c, rest.head? = some c → isNameChar c = false) (n : Nat) (e : Expr) :
    select (n + 1) e ('.' :: (name.toList ++ rest)) =
      if rest.head? = some '(' then do
        let (args, rest) ← args n rest
        select n (.call (some e) name args) rest
      else select n (.field e name) rest := by
  have hclass : name ≠ "class" := by
    rintro rfl
    cases hname
  simp only [select, run_append (isNameChar_of_isIdentifier hname) hrest, if_neg hclass]

theorem isNameChar_head?_renderArgs (es : List Expr) (rest : List Char) (c : Char)
    (hc : ((renderArgs es).toList ++ rest).head? = some c) : isNameChar c = false := by
  rw [head?_renderArgs] at hc
  cases hc
  rfl

/-! ## Scopes -/

theorem readsScope_name {name : String} (hname : isIdentifier name = true) :
    ReadsScope name (.name name) := by
  have hne : name ≠ "" := ne_empty_of_isWord (isIdentifier_iff.mp hname).1
  refine readsScope_of_expr_eq hne fun n rest hrest _ => ?_
  rw [expr_identifier hname hrest.isNameChar_eq_false, if_neg hrest.head?_ne]

theorem readsScope_null : ReadsScope "null" .null :=
  readsScope_of_expr_eq (by decide) fun n _ hrest _ =>
    expr_word (by decide) hrest.isNameChar_eq_false n

theorem readsScope_this : ReadsScope "this" .this :=
  readsScope_of_expr_eq (by decide) fun n _ hrest _ =>
    expr_word (by decide) hrest.isNameChar_eq_false n

theorem readsScope_string (value : String) : ReadsScope (stringLiteral value) (.string value) := by
  refine readsScope_of_expr_eq (by simp [stringLiteral]) fun n rest _ _ => ?_
  have htext : (stringLiteral value).toList ++ rest
      = '"' :: (value.toList.flatMap escapeChar ++ '"' :: rest) := by
    simp [stringLiteral]
  rw [htext]
  simp only [expr, if_true, quoted_flatMap_escapeChar, Option.bind_eq_bind, Option.bind_some,
    String.ofList_toList]

theorem readsScope_call {name : String} (hname : isIdentifier name = true) {es : List Expr}
    (hes : ∀ e ∈ es, Reads e.render e.asFields) :
    ReadsScope (name ++ renderArgs es) (.call none name (allAsFields es)) := by
  have hne : name ≠ "" := ne_empty_of_isWord (isIdentifier_iff.mp hname).1
  refine readsScope_of_expr_eq (by simp [hne]) fun n rest _ hn => ?_
  have hpos := length_toList_pos hne
  rw [String.toList_append, List.append_assoc] at hn ⊢
  rw [List.length_append] at hn
  have hargs : args n ((renderArgs es).toList ++ rest) = some (allAsFields es, rest) :=
    args_renderArgs hes (by omega)
  rw [expr_identifier hname (isNameChar_head?_renderArgs es rest),
    if_pos (head?_renderArgs es rest), hargs]
  rfl

theorem Reads.paren {text : String} {e : Expr} (h : Reads text e) :
    ReadsScope ("(" ++ text ++ ")") (.paren e) := by
  refine readsScope_of_expr_eq (by simp) fun n rest hrest hn => ?_
  have htext : ("(" ++ text ++ ")").toList ++ rest = '(' :: (text.toList ++ ')' :: rest) := by
    simp
  rw [htext] at hn ⊢
  have hinner := h n _ (.close rest) hn
  simp only [expr, hinner, hrest.castValue?_eq_none, Option.bind_eq_bind, Option.bind_some]
  rfl

theorem ReadsScope.field {text : String} {e : Expr} (h : ReadsScope text e) {name : String}
    (hname : isIdentifier name = true) : ReadsScope (text ++ "." ++ name) (.field e name) := by
  intro n rest hrest hn
  have htext : (text ++ "." ++ name).toList ++ rest
      = text.toList ++ '.' :: (name.toList ++ rest) := by simp
  rw [htext] at hn ⊢
  obtain ⟨_ | m, hm, hread⟩ := h n _ (.dot _) hn
  · cases hm
  simp only [List.length_cons, List.length_append] at hm
  refine ⟨m, by omega, ?_⟩
  rw [hread, select_dot hname hrest.isNameChar_eq_false, if_neg hrest.head?_ne]

theorem ReadsScope.callOn {text : String} {e : Expr} (h : ReadsScope text e) {name : String}
    (hname : isIdentifier name = true) {es : List Expr}
    (hes : ∀ e ∈ es, Reads e.render e.asFields) :
    ReadsScope (text ++ "." ++ name ++ renderArgs es) (.call (some e) name (allAsFields es)) := by
  intro n rest hrest hn
  have htext : (text ++ "." ++ name ++ renderArgs es).toList ++ rest
      = text.toList ++ '.' :: (name.toList ++ ((renderArgs es).toList ++ rest)) := by simp
  rw [htext] at hn ⊢
  obtain ⟨_ | m, hm, hread⟩ := h n _ (.dot _) hn
  · cases hm
  simp only [List.length_cons, List.length_append] at hm
  have hargs : args m ((renderArgs es).toList ++ rest) = some (allAsFields es, rest) :=
    args_renderArgs hes (by rw [List.length_append]; omega)
  refine ⟨m, by omega, ?_⟩
  rw [hread, select_dot hname (isNameChar_head?_renderArgs es rest),
    if_pos (head?_renderArgs es rest), hargs]
  rfl

/-! ## Types -/

theorem ReadsScope.foldl_field : ∀ {words : List String} {text : String} {e : Expr},
    ReadsScope text e → (∀ word ∈ words, isIdentifier word = true) →
      ReadsScope (Text.joinDotted text words) (words.foldl .field e)
  | [], _, _, h, _ => h
  | word :: words, _, _, h, hwords => by
      have hword := h.field (hwords word List.mem_cons_self)
      have hrest := hword.foldl_field fun other hother =>
        hwords other (List.mem_cons_of_mem word hother)
      exact hrest

/-- A type is read as the name it is spelled like. -/
theorem readsScope_ofDotted {type : TypeName} (htype : isTypeName type = true) :
    ReadsScope type (Expr.ofDotted type).asFields := by
  obtain ⟨first, rest, hsplit, hjoin⟩ := Text.split_eq_cons type
  rw [isTypeName, hsplit, List.all_cons, Bool.and_eq_true, List.all_eq_true] at htype
  have hread := (readsScope_name htype.1).foldl_field htype.2
  rw [hjoin] at hread
  rw [Expr.ofDotted, hsplit, Expr.asFields_foldl_qualified]
  exact hread

theorem readsScope_classOf {type : TypeName} (htype : isTypeName type = true) :
    ReadsScope (type ++ ".class") (.classOf type) := by
  intro n rest hrest hn
  have htext : (type ++ ".class").toList ++ rest
      = type.toList ++ '.' :: ("class".toList ++ rest) := by simp
  rw [htext] at hn ⊢
  obtain ⟨_ | m, hm, hread⟩ := readsScope_ofDotted htype n _ (.dot _) hn
  · cases hm
  simp only [List.length_cons, List.length_append] at hm
  have hword : run isNameChar ("class".toList ++ rest) = ("class", rest) :=
    run_append (isWord_iff.mp (by decide)).2 hrest.isNameChar_eq_false
  refine ⟨m, by omega, ?_⟩
  rw [hread]
  simp only [select, hword, Expr.render_asFields, Expr.render_ofDotted, if_true]

theorem readsScope_new {type : TypeName} (htype : isTypeName type = true) {es : List Expr}
    (hes : ∀ e ∈ es, Reads e.render e.asFields) :
    ReadsScope ("new " ++ type ++ renderArgs es) (.new type (allAsFields es)) := by
  refine readsScope_of_expr_eq (by simp) fun n rest _ hn => ?_
  have htext : ("new " ++ type ++ renderArgs es).toList ++ rest
      = "new".toList ++ ' ' :: (type.toList ++ ((renderArgs es).toList ++ rest)) := by simp
  have hrun : run isTypeChar (type.toList ++ ((renderArgs es).toList ++ rest))
      = (type, (renderArgs es).toList ++ rest) := by
    refine run_append (isTypeChar_of_isTypeName htype) fun c hc => ?_
    rw [head?_renderArgs] at hc
    cases hc
    rfl
  rw [htext] at hn ⊢
  simp only [List.length_cons, List.length_append] at hn
  have hargs : args n ((renderArgs es).toList ++ rest) = some (allAsFields es, rest) :=
    args_renderArgs hes (by rw [List.length_append]; omega)
  rw [expr_word (by decide) (by rintro _ ⟨⟩; rfl)]
  simp only [List.drop_succ_cons, List.drop_zero, hrun, hargs]
  rfl

/-! ## Expressions that are no scopes -/

theorem ReadsScope.methodRef {text : String} {e : Expr} (h : ReadsScope text e) {name : String}
    (hname : isIdentifier name = true) : Reads (text ++ "::" ++ name) (.methodRef e name) := by
  intro n rest hrest hn
  have htext : (text ++ "::" ++ name).toList ++ rest
      = text.toList ++ ':' :: ':' :: (name.toList ++ rest) := by simp
  have hword : run isNameChar (name.toList ++ rest) = (name, rest) :=
    run_append (isNameChar_of_isIdentifier hname) (Follows.ends hrest).isNameChar_eq_false
  rw [htext] at hn ⊢
  obtain ⟨_ | m, hm, hread⟩ := h n _ (.colons _) hn
  · cases hm
  rw [hread]
  simp only [select, hword]

theorem reads_double {literal : String} (hliteral : isDecimal literal = true) :
    Reads literal (.double literal) := by
  intro n rest hrest hn
  obtain ⟨⟨c, cs, hcons, hdigit⟩, hchars⟩ := toList_of_isDecimal hliteral
  have hrun := run_append hchars hrest.isTypeChar_eq_false
  obtain _ | n := n
  · cases hn
  have hquote : c ≠ '"' := by rintro rfl; cases hdigit
  have hopen : c ≠ '(' := by rintro rfl; cases hdigit
  rw [hcons, List.cons_append] at hrun ⊢
  simp only [expr, if_neg hquote, if_neg hopen, hdigit, hrun, if_true]

theorem Reads.cast {text : String} {e : Expr} (h : Reads text e) {type : TypeName}
    (htype : isTypeName type = true) : Reads ("(" ++ type ++ ") " ++ text) (.cast type e) := by
  intro n rest hrest hn
  have htext : ("(" ++ type ++ ") " ++ text).toList ++ rest
      = '(' :: (type.toList ++ ')' :: ' ' :: (text.toList ++ rest)) := by simp
  have hcast : castValue? (' ' :: (text.toList ++ rest)) = some (text.toList ++ rest) := by
    obtain ⟨c, cs, hcons, hne, -⟩ := h.exists_cons
    rw [hcons, List.cons_append, castValue?]
    rintro _ ⟨⟩
    exact hne rfl
  rw [htext] at hn ⊢
  obtain _ | n := n
  · cases hn
  simp only [List.length_cons, List.length_append] at hn
  -- The type is read as an expression in parentheses before the blank shows what it is.
  have hinner := (readsScope_ofDotted htype).reads n _ (.close (' ' :: (text.toList ++ rest)))
    (by simp only [List.length_cons, List.length_append]; omega)
  have hvalue := h n rest hrest (by rw [List.length_append]; omega)
  simp only [expr, hinner, hcast, hvalue, Expr.render_asFields, Expr.render_ofDotted,
    Option.bind_eq_bind, Option.bind_some]
  rfl

end Reader

/-! ## Whole expressions -/

namespace Expr

open Reader

/-- The induction is over what makes an expression proper: the parts of a
node are read as they are, and the node by the lemma of its kind. -/
theorem IsOperand.reads {e : Expr} (h : e.IsOperand) :
    Reads e.render e.asFields ∧ (e.isScope = true → ReadsScope e.render e.asFields) := by
  have hscope {e : Expr} (h : ReadsScope e.render e.asFields) :
      Reads e.render e.asFields ∧ (e.isScope = true → ReadsScope e.render e.asFields) :=
    ⟨h.reads, fun _ => h⟩
  induction h with
  | name hname => exact hscope (readsScope_name hname)
  | qualified hform _ hname ih =>
      exact hscope ((ih.2 (isScope_of_isQualifier hform)).field hname)
  | field hform _ hname ih => exact hscope ((ih.2 hform).field hname)
  | call hname _ ih => exact hscope (readsScope_call hname fun arg harg => (ih arg harg).1)
  | callOn hform _ hname _ ih ihargs =>
      exact hscope ((ih.2 hform).callOn hname fun arg harg => (ihargs arg harg).1)
  | methodRef hform _ hname ih => exact ⟨(ih.2 hform).methodRef hname, nofun⟩
  | string value => exact hscope (readsScope_string value)
  | double hliteral => exact ⟨reads_double hliteral, nofun⟩
  | null => exact hscope readsScope_null
  | this => exact hscope readsScope_this
  | cast htype _ ih => exact ⟨ih.1.cast htype, nofun⟩
  | paren _ ih => exact hscope ih.1.paren
  | new htype _ ih => exact hscope (readsScope_new htype fun arg harg => (ih arg harg).1)
  | classOf htype => exact hscope (readsScope_classOf htype)

theorem IsProper.whole_render {e : Expr} (h : e.IsProper) :
    whole e.render.toList = some e.asFields := by
  cases h with
  | operand he =>
      have hread := he.reads.1 (e.render.toList.length + 1) [] .nothing (by simp)
      rw [List.append_nil] at hread
      rw [whole, hread]
  | @assign target value htarget hvalue =>
      have htext : (Expr.assign target value).render.toList
          = target.render.toList ++ ' ' :: '=' :: ' ' :: value.render.toList := by
        simp [Expr.render]
      have hleft := htarget.reads.1 _ _ (.equals (' ' :: value.render.toList)) (Nat.lt_succ_self _)
      have hright := hvalue.reads.1 (value.render.toList.length + 1) [] .nothing (by simp)
      rw [List.append_nil] at hright
      rw [whole, htext, hleft]
      simp only [hright, Expr.asFields]

/-- Proper expressions have the same text exactly if they are the same up to
writing fields as qualified names. -/
theorem render_eq_iff {e e' : Expr} (he : e.IsProper) (he' : e'.IsProper) :
    e.render = e'.render ↔ e.asFields = e'.asFields := by
  constructor
  · intro htext
    have hread := he.whole_render
    rw [htext, he'.whole_render] at hread
    exact (Option.some.inj hread).symm
  · intro hfields
    rw [← e.render_asFields, hfields, e'.render_asFields]

/-- A call with arguments of many kinds, one of them a string that holds the
text of more. -/
def putCall (scope : Expr) : Expr :=
  .callOn scope "put" [.cast "javafx.Text" (.string "a\"), (b) c = \"d"),
    .callOn (.paren (.new "Box" [])) "getClass" [], .classOf "Box", .double "1.50",
    .methodRef (.name "Box") "make"]

theorem render_eq_iff_putCall :
    (putCall (.qualified (.name "view") "label")).IsProper
      ∧ (putCall (.field (.name "view") "label")).IsProper
      ∧ (putCall (.qualified (.name "view") "label")).render
        = (putCall (.field (.name "view") "label")).render := by
  have hput : ∀ scope : Expr, scope.isScope = true → scope.IsOperand →
      (putCall scope).IsProper := by
    intro scope hform hscope
    refine .operand (.callOn hform hscope (by decide) ?_)
    simp only [List.forall_mem_cons]
    refine ⟨.cast (by decide) (.string _), ?_, .classOf (by decide), .double (by decide),
      .methodRef rfl (.name (by decide)) (by decide), nofun⟩
    exact .callOn rfl (.paren (.new (by decide) nofun)) (by decide) nofun
  have hview : (Expr.name "view").IsOperand := .name (by decide)
  have hqualified := hput _ rfl (.qualified rfl hview (show isIdentifier "label" = true by decide))
  have hfield := hput _ rfl (.field rfl hview (show isIdentifier "label" = true by decide))
  exact ⟨hqualified, hfield, (render_eq_iff hqualified hfield).mpr rfl⟩

end Expr

end FxmlCodegen.Java
