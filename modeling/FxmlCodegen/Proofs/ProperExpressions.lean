import FxmlCodegen.Java.Printer

/-!
# Expressions with one reading

The printer writes a tree as it is built, so a tree that puts a cast in
front of a dot, or a name that holds a parenthesis, has the text of another
tree. `Expr.IsProper` says of which expressions that cannot happen: names
are identifiers, types are identifiers between dots, what stands before a
dot or a double colon is a scope, and only the whole expression may be an
assignment. String literals hold any text.

Even so a qualified name and a field access are printed alike.
`Expr.asFields` is the expression with the one in place of the other; it
has the same text (`Expr.render_asFields`).
-/

namespace FxmlCodegen

/-! ## Dotted names -/

namespace Text

/-- The text with these parts between dots. -/
def joinDotted (first : String) (rest : List String) : String :=
  rest.foldl (fun text part => text ++ "." ++ part) first

theorem toList_joinDotted : ∀ (first : String) (rest : List String),
    (joinDotted first rest).toList = first.toList ++ rest.flatMap fun part => '.' :: part.toList
  | first, [] => by simp [joinDotted]
  | first, part :: rest => by
      have ih := toList_joinDotted (first ++ "." ++ part) rest
      rw [joinDotted] at ih ⊢
      rw [List.foldl_cons, ih]
      simp

theorem split_eq_cons (s : String) :
    ∃ first rest, split '.' s = first :: rest ∧ joinDotted first rest = s := by
  obtain ⟨first, rest, hsplit, hs⟩ := splitList_eq_cons '.' s.toList
  refine ⟨.ofList first, rest.map .ofList, by rw [split, hsplit, List.map_cons], ?_⟩
  rw [← String.toList_inj, toList_joinDotted, List.flatMap_map, hs]
  simp

end Text

namespace Java

/-! ## Names and literals -/

/-- What stands between the words of an expression. -/
def punctuation : List Char := [' ', '.', '(', ')', ',', ':', '=', '"']

def isNameChar (c : Char) : Bool := !punctuation.contains c

def isTypeChar (c : Char) : Bool := isNameChar c || c == '.'

/-- A text that ends where a name would and is not taken for a number. -/
def isWord (s : String) : Bool := s.toList.head?.any (!·.isDigit) && s.toList.all isNameChar

def keywords : List String := ["null", "this", "new", "class", "return"]

/-- A word other than a keyword. All of Java's identifiers are such
words; that some more are does no harm. -/
def isIdentifier (s : String) : Bool := isWord s && !keywords.contains s

def isTypeName (type : TypeName) : Bool := (Text.split '.' type).all isIdentifier

def isDigits (s : String) : Bool := !s.toList.isEmpty && s.toList.all Char.isDigit

/-- Digits, a dot and digits. -/
def isDecimal (literal : String) : Bool :=
  match Text.split '.' literal with
  | [whole, fraction] => isDigits whole && isDigits fraction
  | _ => false

theorem isWord_iff {s : String} : isWord s = true ↔
    (∃ c cs, s.toList = c :: cs ∧ c.isDigit = false) ∧ ∀ c ∈ s.toList, isNameChar c = true := by
  rw [isWord, Bool.and_eq_true, List.all_eq_true]
  refine and_congr_left fun _ => ?_
  cases s.toList with
  | nil => simp
  | cons c cs => simp

theorem ne_empty_of_isWord {s : String} (hs : isWord s = true) : s ≠ "" := by
  rintro rfl
  cases hs

theorem isIdentifier_iff {s : String} :
    isIdentifier s = true ↔ isWord s = true ∧ s ∉ keywords := by
  simp [isIdentifier]

theorem isNameChar_of_isIdentifier {s : String} (hs : isIdentifier s = true) :
    ∀ c ∈ s.toList, isNameChar c = true :=
  (isWord_iff.mp (isIdentifier_iff.mp hs).1).2

theorem isTypeChar_joinDotted {first : String} {rest : List String}
    (hparts : ∀ part ∈ first :: rest, ∀ c ∈ part.toList, isNameChar c = true) :
    ∀ c ∈ (Text.joinDotted first rest).toList, isTypeChar c = true := by
  intro c hc
  rw [Text.toList_joinDotted, List.mem_append, List.mem_flatMap] at hc
  rw [isTypeChar, Bool.or_eq_true, beq_iff_eq]
  rcases hc with hfirst | ⟨part, hpart, hc⟩
  · exact .inl (hparts first List.mem_cons_self c hfirst)
  · rcases List.mem_cons.mp hc with hdot | hc
    · exact .inr hdot
    · exact .inl (hparts part (List.mem_cons_of_mem first hpart) c hc)

theorem isTypeChar_of_isTypeName {type : TypeName} (htype : isTypeName type = true) :
    ∀ c ∈ type.toList, isTypeChar c = true := by
  obtain ⟨first, rest, hsplit, hjoin⟩ := Text.split_eq_cons type
  rw [isTypeName, hsplit, List.all_eq_true] at htype
  rw [← hjoin]
  exact isTypeChar_joinDotted fun part hpart => isNameChar_of_isIdentifier (htype part hpart)

theorem isNameChar_of_isDigit {c : Char} (hc : c.isDigit = true) : isNameChar c = true := by
  have hpunctuation : ∀ d ∈ punctuation, (!d.isDigit) = true := List.all_eq_true.mp rfl
  rw [isNameChar, Bool.not_eq_true', List.contains_eq_mem, decide_eq_false_iff_not]
  intro hmem
  have hnot := hpunctuation c hmem
  rw [hc] at hnot
  cases hnot

/-- What tells a decimal from a word, and where it ends. -/
theorem toList_of_isDecimal {literal : String} (hliteral : isDecimal literal = true) :
    (∃ c cs, literal.toList = c :: cs ∧ c.isDigit = true)
      ∧ ∀ c ∈ literal.toList, isTypeChar c = true := by
  obtain ⟨first, more, hsplit, hjoin⟩ := Text.split_eq_cons literal
  rw [isDecimal, hsplit] at hliteral
  split at hliteral
  · rename_i hparts
    cases hparts
    simp only [isDigits, Bool.and_eq_true, List.all_eq_true] at hliteral
    obtain ⟨⟨hne, hwhole⟩, -, hfraction⟩ := hliteral
    constructor
    · rw [← hjoin, Text.toList_joinDotted]
      cases hcs : first.toList with
      | nil =>
          rw [hcs] at hne
          cases hne
      | cons c cs => exact ⟨c, _, rfl, hwhole c (hcs ▸ List.mem_cons_self)⟩
    · rw [← hjoin]
      refine isTypeChar_joinDotted fun part hpart c hc => isNameChar_of_isDigit ?_
      simp only [List.mem_cons, List.not_mem_nil, or_false] at hpart
      rcases hpart with rfl | rfl
      · exact hwhole c hc
      · exact hfraction c hc
  · cases hliteral

/-! ## Proper expressions -/

namespace Expr

/-- What may stand before a dot or a double colon. -/
def isScope : Expr → Bool
  | .cast _ _ => false
  | .assign _ _ => false
  | .methodRef _ _ => false
  | .double _ => false
  | _ => true

def isQualifier : Expr → Bool
  | .name _ => true
  | .qualified _ _ => true
  | _ => false

/-- An expression without assignments, of parts that are spelled as they
should. -/
inductive IsOperand : Expr → Prop
  | name {name : String} (hname : isIdentifier name = true) : IsOperand (.name name)
  | qualified {qualifier : Expr} {name : String} (hform : qualifier.isQualifier = true)
    (hqualifier : IsOperand qualifier) (hname : isIdentifier name = true) :
    IsOperand (.qualified qualifier name)
  | field {scope : Expr} {name : String} (hform : scope.isScope = true) (hscope : IsOperand scope)
    (hname : isIdentifier name = true) : IsOperand (.field scope name)
  | call {name : String} {args : List Expr} (hname : isIdentifier name = true)
    (hargs : ∀ arg ∈ args, IsOperand arg) : IsOperand (.call none name args)
  | callOn {scope : Expr} {name : String} {args : List Expr} (hform : scope.isScope = true)
    (hscope : IsOperand scope) (hname : isIdentifier name = true)
    (hargs : ∀ arg ∈ args, IsOperand arg) : IsOperand (.call (some scope) name args)
  | methodRef {scope : Expr} {name : String} (hform : scope.isScope = true)
    (hscope : IsOperand scope) (hname : isIdentifier name = true) :
    IsOperand (.methodRef scope name)
  | string (value : String) : IsOperand (.string value)
  | double {literal : String} (hliteral : isDecimal literal = true) : IsOperand (.double literal)
  | null : IsOperand .null
  | this : IsOperand .this
  | cast {type : TypeName} {value : Expr} (htype : isTypeName type = true)
    (hvalue : IsOperand value) : IsOperand (.cast type value)
  | paren {inner : Expr} (hinner : IsOperand inner) : IsOperand (.paren inner)
  | new {type : TypeName} {args : List Expr} (htype : isTypeName type = true)
    (hargs : ∀ arg ∈ args, IsOperand arg) : IsOperand (.new type args)
  | classOf {type : TypeName} (htype : isTypeName type = true) : IsOperand (.classOf type)

theorem isScope_of_isQualifier {e : Expr} (h : e.isQualifier = true) : e.isScope = true := by
  cases e with
  | cast | assign | methodRef | double => cases h
  | _ => rfl

/-- An operand, or an assignment of one to another. -/
inductive IsProper : Expr → Prop
  | operand {e : Expr} (he : IsOperand e) : IsProper e
  | assign {target value : Expr} (htarget : IsOperand target) (hvalue : IsOperand value) :
    IsProper (.assign target value)

end Expr

/-! ## Qualified names as fields -/

mutual

/-- The expression with field accesses for its qualified names. -/
def Expr.asFields : Expr → Expr
  | .name name => .name name
  | .qualified qualifier name => .field qualifier.asFields name
  | .field scope name => .field scope.asFields name
  | .call none name args => .call none name (allAsFields args)
  | .call (some scope) name args => .call (some scope.asFields) name (allAsFields args)
  | .methodRef scope name => .methodRef scope.asFields name
  | .string value => .string value
  | .double literal => .double literal
  | .null => .null
  | .this => .this
  | .cast type value => .cast type value.asFields
  | .paren inner => .paren inner.asFields
  | .new type args => .new type (allAsFields args)
  | .classOf type => .classOf type
  | .assign target value => .assign target.asFields value.asFields

def allAsFields : List Expr → List Expr
  | [] => []
  | arg :: args => arg.asFields :: allAsFields args

end

mutual

theorem Expr.render_asFields : ∀ e : Expr, e.asFields.render = e.render
  | .name _ => rfl
  | .qualified qualifier name => by
      rw [Expr.asFields, Expr.render, Expr.render, qualifier.render_asFields]
  | .field scope name => by rw [Expr.asFields, Expr.render, Expr.render, scope.render_asFields]
  | .call none name args => by
      rw [Expr.asFields, Expr.render, Expr.render, renderArgs_allAsFields args]
  | .call (some scope) name args => by
      rw [Expr.asFields, Expr.render, Expr.render, scope.render_asFields,
        renderArgs_allAsFields args]
  | .methodRef scope name => by
      rw [Expr.asFields, Expr.render, Expr.render, scope.render_asFields]
  | .string _ => rfl
  | .double _ => rfl
  | .null => rfl
  | .this => rfl
  | .cast type value => by rw [Expr.asFields, Expr.render, Expr.render, value.render_asFields]
  | .paren inner => by rw [Expr.asFields, Expr.render, Expr.render, inner.render_asFields]
  | .new type args => by
      rw [Expr.asFields, Expr.render, Expr.render, renderArgs_allAsFields args]
  | .classOf _ => rfl
  | .assign target value => by
      rw [Expr.asFields, Expr.render, Expr.render, target.render_asFields, value.render_asFields]

theorem renderArgs_allAsFields : ∀ args : List Expr,
    renderArgs (allAsFields args) = renderArgs args
  | [] => rfl
  | arg :: args => by
      rw [allAsFields, renderArgs, renderArgs, arg.render_asFields, renderMoreArgs_allAsFields args]

theorem renderMoreArgs_allAsFields : ∀ args : List Expr,
    renderMoreArgs (allAsFields args) = renderMoreArgs args
  | [] => rfl
  | arg :: args => by
      rw [allAsFields, renderMoreArgs, renderMoreArgs, arg.render_asFields,
        renderMoreArgs_allAsFields args]

end

namespace Expr

theorem asFields_foldl_qualified : ∀ (words : List String) (e : Expr),
    (words.foldl .qualified e).asFields = words.foldl .field e.asFields
  | [], _ => rfl
  | word :: words, e => asFields_foldl_qualified words (.qualified e word)

theorem render_foldl_qualified : ∀ (words : List String) (e : Expr),
    (words.foldl .qualified e).render = Text.joinDotted e.render words
  | [], _ => rfl
  | word :: words, e => render_foldl_qualified words (.qualified e word)

/-- A dotted name is printed as it is written. -/
theorem render_ofDotted (dotted : String) : (ofDotted dotted).render = dotted := by
  obtain ⟨first, rest, hsplit, hjoin⟩ := Text.split_eq_cons dotted
  rw [ofDotted, hsplit]
  exact (render_foldl_qualified rest (.name first)).trans hjoin

end Expr

end Java

end FxmlCodegen
