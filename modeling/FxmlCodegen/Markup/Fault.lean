import FxmlCodegen.Text.Quoted

/-!
# Reading faults

Everything that can be wrong with the text of a document, from an
unclosed comment to a second root element, and the message for each.
Offsets and ranges count bytes.
-/

namespace FxmlCodegen.Markup

/-! ## Causes -/

/-- A piece of markup whose end is looked for. -/
inductive Construct where
  | declaration
  | bang
  | comment
  | cdata
  | doctype
  | tag
  deriving DecidableEq, Inhabited

/-- A fault in the sequence of tags. -/
inductive LexFault where
  /-- A closing tag that does not close the innermost open one. -/
  | mismatchedClose (expected found : String)
  /-- The text ends inside the construct, or only looked like one. -/
  | unfinished (construct : Construct)
  /-- No construct starts with `!` and this byte. -/
  | unknownBang (symbol : Char)
  | emptyDoctype
  deriving DecidableEq, Inhabited

/-- A fault in the attributes of a tag; offsets count from the tag's
first byte. -/
inductive AttributeFault where
  | missingEquals (offset : Nat)
  | repeated (offset previous : Nat)
  | missingValue (offset : Nat)
  | unquoted (offset : Nat)
  | unclosedQuote (offset : Nat) (quote : Char)
  deriving DecidableEq, Inhabited

/-- A fault in an entity reference; ranges count from the value's first
byte. -/
inductive EntityFault where
  | unterminated (first last : Nat)
  | unknown (first last : Nat) (name : String)
  | zero (first last : Nat)
  | longHexadecimal
  | longDecimal
  | badHexadecimal (symbol : Char)
  | badDecimal (symbol : Char)
  | noCharacter (code : Nat)
  deriving DecidableEq, Inhabited

/-- A fault in how elements nest. -/
inductive TreeFault where
  | includeWithoutSource
  | unexpectedClose
  | unclosed (name : String)
  | secondRoot (name : String)
  deriving DecidableEq, Inhabited

inductive Fault where
  | lex (fault : LexFault) (offset : Nat)
  | attribute (fault : AttributeFault)
  | entity (fault : EntityFault)
  | tree (fault : TreeFault)
  deriving DecidableEq, Inhabited

/-! ## Messages -/

def Construct.label : Construct → String
  | .declaration => "XmlDecl"
  | .bang => "Bang"
  | .comment => "Comment"
  | .cdata => "CData"
  | .doctype => "DOCTYPE"
  | .tag => "Element"

def LexFault.message : LexFault → String
  | .mismatchedClose expected found => "Expecting </" ++ expected ++ "> found </" ++ found ++ ">"
  | .unfinished construct => "Unexpected EOF during reading " ++ construct.label
  | .unknownBang symbol =>
    "Only Comment (`--`), CDATA (`[CDATA[`) and DOCTYPE (`DOCTYPE`) nodes can start with a '!', "
      ++ "but symbol `" ++ symbol.toString ++ "` found"
  | .emptyDoctype => "DOCTYPE declaration must not be empty"

def AttributeFault.message : AttributeFault → String
  | .missingEquals offset =>
    "position " ++ toString offset
      ++ ": attribute key must be directly followed by `=` or space"
  | .repeated offset previous =>
    "position " ++ toString offset ++ ": duplicated attribute, previous declaration at position "
      ++ toString previous
  | .missingValue offset =>
    "position " ++ toString offset ++ ": `=` must be followed by an attribute value"
  | .unquoted offset =>
    "position " ++ toString offset ++ ": attribute value must be enclosed in `\"` or `'`"
  | .unclosedQuote offset quote =>
    "position " ++ toString offset ++ ": missing closing quote `" ++ quote.toString
      ++ "` in attribute value"

/-- What a message about a range of a value starts with. -/
def rangeMessage (first last : Nat) (what : String) : String :=
  "Error while escaping character at range " ++ toString first ++ ".." ++ toString last
    ++ ": " ++ what

def EntityFault.message : EntityFault → String
  | .unterminated first last => rangeMessage first last "Cannot find ';' after '&'"
  | .unknown first last name =>
    rangeMessage first last ("Unrecognized escape symbol: " ++ Text.quoted name)
  | .zero first last => rangeMessage first last "Null character entity not allowed"
  | .longHexadecimal => "Cannot convert hexadecimal to utf8"
  | .longDecimal => "Cannot convert decimal to utf8"
  | .badHexadecimal symbol => "'" ++ symbol.toString ++ "' is not a valid hexadecimal character"
  | .badDecimal symbol => "'" ++ symbol.toString ++ "' is not a valid decimal character"
  | .noCharacter code => "'" ++ toString code ++ "' is not a valid codepoint"

def TreeFault.message : TreeFault → String
  | .includeWithoutSource => "<fx:include> without source attribute"
  | .unexpectedClose => "unexpected closing tag"
  | .unclosed name => "unclosed element <" ++ name ++ ">"
  | .secondRoot name => "second root element <" ++ name ++ ">"

/-- The message of a fault. Only the sequence of tags is located in the
text as a whole. -/
def Fault.message : Fault → String
  | .lex fault offset => fault.message ++ " at byte " ++ toString offset
  | .attribute fault => fault.message
  | .entity fault => fault.message
  | .tree fault => fault.message

end FxmlCodegen.Markup
