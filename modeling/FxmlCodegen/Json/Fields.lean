import FxmlCodegen.Json.Value

/-!
# Reading the members of an object

What every decoder asks of an object: a member that must be there, one
that may be absent or `null`, one that may be absent but not `null`.
Members a decoder does not know are skipped; a member it knows must not
be given twice (`isOnce`). A decoder that fails gives `none`.

A node that comes in several kinds says which under a key of its own,
its tag. Tags are names; a node inside another node may also give the
position of the name among all tags of its type.
-/

namespace FxmlCodegen.Json

abbrev Fields := List (String × Json)

def fields? : Json → Option Fields
  | .obj fields => some fields
  | _ => none

def string? : Json → Option String
  | .str s => some s
  | _ => none

def bool? : Json → Option Bool
  | .bool b => some b
  | _ => none

def list? : Json → Option (List Json)
  | .arr items => some items
  | _ => none

/-- How the tag of a node may be given. -/
inductive TagForm where
  | name
  | nameOrPosition
  deriving DecidableEq

/-- The tag a value gives, out of a list of tags if by position. -/
def TagForm.tag? (form : TagForm) (tags : List String) : Json → Option String
  | .str tag => some tag
  | .nat position => if form = .nameOrPosition then tags[position]? else none
  | _ => none

namespace Fields

/-- The value of the first member with this key. -/
def get? (fields : Fields) (key : String) : Option Json := fields.lookup key

/-- No key of the list is given twice. -/
def isOnce (known : List String) (fields : Fields) : Bool :=
  known.all fun key => (fields.filter (·.1 == key)).length ≤ 1

/-- The member must be there. -/
def required (fields : Fields) (key : String) (decode : Json → Option α) : Option α :=
  fields.get? key >>= decode

/-- The member may be absent or `null`. -/
def optional (fields : Fields) (key : String) (decode : Json → Option α) : Option (Option α) :=
  match fields.get? key with
  | none => some none
  | some .null => some none
  | some value => (decode value).map some

/-- The member may be absent but not `null`. -/
def withDefault (fields : Fields) (key : String) (default : α) (decode : Json → Option α) :
    Option α :=
  match fields.get? key with
  | none => some default
  | some value => decode value

/-- The tag under `key` of a node, if neither the tag nor a field that
this kind of node has is given twice. -/
def tag? (fields : Fields) (form : TagForm) (key : String) (tags : List String)
    (fieldNames : String → List String) : Option String := do
  let tag ← fields.required key (form.tag? tags)
  if fields.isOnce (key :: fieldNames tag) then some tag else none

/-- A list that may be absent but not `null`. -/
def items (fields : Fields) (key : String) (decode : Json → Option α) : Option (List α) :=
  fields.withDefault key [] fun value => do (← value.list?).mapM decode

end Fields

/-- The members of an object that gives none of the known keys twice. -/
def fieldsOnce? (known : List String) (json : Json) : Option Fields := do
  let fields ← json.fields?
  if fields.isOnce known then some fields else none

end FxmlCodegen.Json
