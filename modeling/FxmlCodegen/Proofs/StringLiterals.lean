import FxmlCodegen.Emit.Attribute
import FxmlCodegen.Proofs.ExpressionText

/-!
# String literals stay closed

A string in generated code comes from a document and may hold anything:
quotes, backslashes, line ends. As a literal it stands for itself. A reader
that starts at the opening quote stops at the closing one, whatever
follows, and has read the string (`Reader.literal?_render`); and the literal
stays on its line (`stringLiteral_oneLine`).

The literals of an expression are in its text as they are printed by
themselves (`Expr.shows_render`), so what a literal stands for can be read
off the text of the code. For an attribute that is the string it gives by
the rules for values (`Attribute.string?`), and the code of an attribute
has no other literal (`Attribute.literals_emit`), unless a handler makes
the code.
-/

namespace FxmlCodegen

namespace Java

/-! ## Reading a literal -/

/-- The value of the string literal at the start of a text, and what
follows it. -/
def Reader.literal? (text : String) : Option (String × String) :=
  match text.toList with
  | '"' :: cs => (quoted cs).map fun read => (String.ofList read.1, String.ofList read.2)
  | _ => none

theorem Reader.literal?_render (value after : String) :
    literal? ((Expr.string value).render ++ after) = some (value, after) := by
  have htext : ((Expr.string value).render ++ after).toList
      = '"' :: (value.toList.flatMap escapeChar ++ '"' :: after.toList) := by
    simp [Expr.render, stringLiteral]
  rw [literal?, htext]
  simp only [quoted_flatMap_escapeChar, Option.map_some, String.ofList_toList]

/-- Neither a line end nor a tab is in a literal. -/
theorem stringLiteral_oneLine (value : String) :
    ∀ c ∈ (stringLiteral value).toList, c ≠ '\n' ∧ c ≠ '\r' ∧ c ≠ '\t' := by
  intro c hc
  rw [stringLiteral, String.toList_ofList, List.mem_cons, List.mem_append, List.mem_flatMap,
    List.mem_singleton] at hc
  rcases hc with rfl | ⟨x, -, hc⟩ | rfl
  · decide
  · unfold escapeChar at hc
    grind
  · decide

/-! ## Literals in code -/

mutual

/-- The string literals in an expression, in the order of its text. -/
def Expr.literals : Expr → List String
  | .qualified qualifier _ => qualifier.literals
  | .field scope _ => scope.literals
  | .call none _ args => literalsAll args
  | .call (some scope) _ args => scope.literals ++ literalsAll args
  | .methodRef scope _ => scope.literals
  | .string value => [value]
  | .cast _ value => value.literals
  | .paren inner => inner.literals
  | .new _ args => literalsAll args
  | .assign target value => target.literals ++ value.literals
  | .name _ | .double _ | .null | .this | .classOf _ => []

def literalsAll : List Expr → List String
  | [] => []
  | arg :: args => arg.literals ++ literalsAll args

end

def Stmt.literals : Stmt → List String
  | .expr e => e.literals
  | .declare _ _ init => init.literals
  | .ret value => value.literals

/-- The literal of a string is somewhere in the text. -/
def Shows (text value : String) : Prop :=
  ∃ before after, text = before ++ ((Expr.string value).render ++ after)

namespace Shows

variable {text value : String}

theorem append (h : Shows text value) (more : String) : Shows (text ++ more) value := by
  obtain ⟨before, after, rfl⟩ := h
  exact ⟨before, after ++ more, by simp only [String.append_assoc]⟩

theorem prepend (h : Shows text value) (more : String) : Shows (more ++ text) value := by
  obtain ⟨before, after, rfl⟩ := h
  exact ⟨more ++ before, after, by simp only [String.append_assoc]⟩

end Shows

mutual

theorem Expr.shows_render : ∀ (e : Expr), ∀ value ∈ e.literals, Shows e.render value
  | .name _, _, h => nomatch h
  | .qualified qualifier _, value, h => ((qualifier.shows_render value h).append _).append _
  | .field scope _, value, h => ((scope.shows_render value h).append _).append _
  | .call none _ args, value, h => (shows_renderArgs args value h).prepend _
  | .call (some scope) name args, value, h => by
      rw [Expr.literals, List.mem_append] at h
      rcases h with h | h
      · exact (((scope.shows_render value h).append _).append _).append _
      · exact (shows_renderArgs args value h).prepend _
  | .methodRef scope _, value, h => ((scope.shows_render value h).append _).append _
  | .string text, value, h => by
      obtain rfl := List.mem_singleton.mp h
      exact ⟨"", "", by simp⟩
  | .double _, _, h => nomatch h
  | .null, _, h => nomatch h
  | .this, _, h => nomatch h
  | .cast _ inner, value, h => (inner.shows_render value h).prepend _
  | .paren inner, value, h => ((inner.shows_render value h).prepend _).append _
  | .new _ args, value, h => (shows_renderArgs args value h).prepend _
  | .classOf _, _, h => nomatch h
  | .assign target source, value, h => by
      rw [Expr.literals, List.mem_append] at h
      rcases h with h | h
      · exact ((target.shows_render value h).append _).append _
      · exact (source.shows_render value h).prepend _

theorem shows_renderArgs : ∀ (args : List Expr), ∀ value ∈ literalsAll args,
    Shows (renderArgs args) value
  | [], _, h => nomatch h
  | arg :: args, value, h => by
      rw [literalsAll, List.mem_append] at h
      rcases h with h | h
      · exact ((arg.shows_render value h).prepend _).append _
      · exact (shows_renderMoreArgs args value h).prepend _

theorem shows_renderMoreArgs : ∀ (args : List Expr), ∀ value ∈ literalsAll args,
    Shows (renderMoreArgs args) value
  | [], _, h => nomatch h
  | arg :: args, value, h => by
      rw [literalsAll, List.mem_append] at h
      rcases h with h | h
      · exact ((arg.shows_render value h).prepend _).append _
      · exact (shows_renderMoreArgs args value h).prepend _

end

theorem Stmt.shows_render (stmt : Stmt) : ∀ value ∈ stmt.literals, Shows stmt.render value := by
  intro value h
  cases stmt with
  | expr e => exact (e.shows_render value h).append _
  | declare type name init => exact ((init.shows_render value h).prepend _).append _
  | ret e => exact ((e.shows_render value h).prepend _).append _

/-! ## Literals of the calls that are made -/

namespace Expr

@[simp] theorem literals_name (name : String) : (Expr.name name).literals = [] := by
  rw [literals]

@[simp] theorem literals_callOn (scope : Expr) (name : String) (args : List Expr) :
    (scope.callOn name args).literals = scope.literals ++ literalsAll args := by
  rw [callOn, literals]

@[simp] theorem literals_setter (scope : Expr) (property : String) (value : Expr) :
    (scope.setter property value).literals = scope.literals ++ value.literals := by
  simp [setter, literalsAll]

theorem literals_foldl_qualified : ∀ (words : List String) (e : Expr),
    (words.foldl .qualified e).literals = e.literals
  | [], _ => rfl
  | word :: words, e => literals_foldl_qualified words (.qualified e word)

@[simp] theorem literals_ofDotted (dotted : String) : (ofDotted dotted).literals = [] := by
  unfold ofDotted
  split
  · rfl
  · exact literals_foldl_qualified _ _

@[simp] theorem literals_staticSetter (dotted : String) (target value : Expr) :
    (staticSetter dotted target value).literals = target.literals ++ value.literals := by
  unfold staticSetter
  split <;> simp [literals, literalsAll]

end Expr

end Java

open Java (Expr Stmt literalsAll)

/-! ## The strings of attributes -/

/-- The string that an attribute is in the code, if it is one: its value as
it stands, a key of the resource bundle, or the path of a resource. -/
def Attribute.string? (controller : Option String) (a : Attribute) : Option String :=
  if a.name = "styleClass" ∨ a.name = "id" then some a.value
  else if isSizeHint a.name then none
  else if a.value.toList.head? = some '%' then some (String.ofList a.value.toList.tail)
  else if a.value.toList.head? = some '@' then some (Resource.normalize controller a.value)
  else if a.name = "text" then some a.value
  else none

/-- A handler makes the code. -/
def Attribute.isHandled (a : Attribute) : Bool :=
  a.kind = .eventHandler ∧ a.name ≠ "styleClass" ∧ a.name ≠ "url"

theorem literals_sizeHint (value : String) : (sizeHint value).literals = [] := by
  unfold sizeHint sizeSentinel
  split
  · exact Expr.literals_ofDotted _
  · split
    · exact Expr.literals_ofDotted _
    · rfl

namespace Attribute

theorem literals_resolve (env : Env) {a : Attribute} (hstyle : a.name ≠ "styleClass") :
    (a.resolve env).literals = (a.string? env.scope.active).toList := by
  unfold resolve resolveValue string?
  by_cases hid : a.name = "id"
  · have hsize : isSizeHint "id" = false := by decide
    simp [hid, hsize, Expr.literals]
  by_cases hsize : isSizeHint a.name = true
  · simp [hstyle, hid, hsize, literals_sizeHint]
  simp only [hsize, hid, hstyle, beq_iff_eq, or_self, if_false, Bool.false_eq_true]
  split
  · rename_i key hkey
    simp [hkey, bundleLookup, Expr.literals, Java.literalsAll]
  · rename_i path hpath
    simp [hpath, Expr.literals]
  · rename_i hkey hpath
    have hkey : a.value.toList.head? ≠ some '%' := fun h =>
      (List.head?_eq_some_iff.mp h).elim hkey
    have hpath : a.value.toList.head? ≠ some '@' := fun h =>
      (List.head?_eq_some_iff.mp h).elim hpath
    rw [if_neg hkey, if_neg hpath]
    split
    · rfl
    · split
      · exact Expr.literals_ofDotted _
      · rfl
      · rfl

/-- The code of an attribute has the literal of its string and no other, or
those that its handler writes. -/
theorem literals_emit (env : Env) (owner : String) (a : Attribute) :
    (a.emit env owner).toStmt.literals
      = if a.isHandled then (env.handler a.handlerName).literals
        else (a.string? env.scope.active).toList := by
  unfold emit isHandled
  by_cases hstyle : a.name = "styleClass"
  · simp [hstyle, string?, AttributeCode.toStmt, Stmt.literals, Expr.literals, literalsAll]
  have hresolve := literals_resolve env hstyle
  by_cases hurl : a.name = "url"
  · simp [hurl, AttributeCode.toStmt, Stmt.literals, stream, Expr.literals, literalsAll, hresolve]
  · cases hkind : a.kind with
    | eventHandler => simp [hstyle, hurl, AttributeCode.toStmt, Stmt.literals]
    | instanceProperty => simp [hstyle, hurl, AttributeCode.toStmt, Stmt.literals, hresolve]
    | staticProperty => simp [hstyle, hurl, AttributeCode.toStmt, Stmt.literals, hresolve]

/-- A string literal is read as its string, up to its closing quote and no
further, and stays on its line. So the literals in the code of an attribute
are read, where they stand in its text, as the string of the attribute. -/
theorem literals_readBack :
    (∀ value after : String,
        Java.Reader.literal? ((Expr.string value).render ++ after) = some (value, after))
      ∧ (∀ value : String, '\n' ∉ (Expr.string value).render.toList
        ∧ '\r' ∉ (Expr.string value).render.toList ∧ '\t' ∉ (Expr.string value).render.toList)
      ∧ ∀ (env : Env) (owner : String) (a : Attribute),
        (a.emit env owner).toStmt.literals
            = (if a.isHandled then (env.handler a.handlerName).literals
              else (a.string? env.scope.active).toList)
          ∧ ∀ value ∈ (a.emit env owner).toStmt.literals, ∃ before after,
            (a.emit env owner).toStmt.render = before ++ ((Expr.string value).render ++ after)
              ∧ Java.Reader.literal? ((Expr.string value).render ++ after)
                = some (value, after) := by
  refine ⟨Java.Reader.literal?_render, fun value => ?_, fun env owner a =>
    ⟨a.literals_emit env owner, fun value hvalue => ?_⟩⟩
  · have hline := Java.stringLiteral_oneLine value
    exact ⟨fun h => (hline _ h).1 rfl, fun h => (hline _ h).2.1 rfl, fun h => (hline _ h).2.2 rfl⟩
  · obtain ⟨before, after, htext⟩ := (a.emit env owner).toStmt.shows_render value hvalue
    exact ⟨before, after, htext, Java.Reader.literal?_render value after⟩

/-- A text with a quote, and a backslash before a line end. -/
def quotedText : Attribute := ⟨"text", "say \"hi\"\\\n", .instanceProperty⟩

theorem literals_readBack_quotedText :
    (quotedText.emit {} "label").toStmt.render = "label.setText(\"say \\\"hi\\\"\\\\\\n\");"
      ∧ ∃ before after, (quotedText.emit {} "label").toStmt.render
          = before ++ ((Expr.string "say \"hi\"\\\n").render ++ after)
        ∧ Java.Reader.literal? ((Expr.string "say \"hi\"\\\n").render ++ after)
          = some ("say \"hi\"\\\n", after) := by
  refine ⟨by decide +kernel, (literals_readBack.2.2 {} "label" quotedText).2 _ ?_⟩
  exact List.mem_singleton_self _

end Attribute

end FxmlCodegen
