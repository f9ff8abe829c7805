import FxmlCodegen.Markup.Entity
import FxmlCodegen.Markup.Event

/-!
# The attributes of a tag

Keys and values in the order of the tag. A key reaches to the next `=`
or blank, its first character excepted, and may not occur twice; a value
is quoted. Each value is decoded before the next attribute is read, so
the first fault in the text is the one reported.
-/

namespace FxmlCodegen.Markup

/-- One attribute as it stands in a tag. -/
structure RawAttribute where
  key : String
  keyOffset : Nat
  value : List Char
  /-- Where the tag goes on. -/
  pos : Nat
  rest : List Char

def isKeyChar (c : Char) : Bool := c != '=' && !isSpace c

/-- Reads a quoted value, given the text after the `=`. -/
def readValue (total pos : Nat) (cs : List Char) :
    Except AttributeFault (List Char × Nat × List Char) :=
  let offset := pos + (cs.takeWhile isSpace).length
  match cs.dropWhile isSpace with
  | [] => .error (.missingValue total)
  | quote :: cs =>
    if quote = '"' || quote = '\'' then
      match Text.cutFirst [quote] cs with
      | some (value, rest) => .ok (value, offset + 1 + Text.byteLength value + 1, rest)
      | none => .error (.unclosedQuote total quote)
    else
      .error (.unquoted offset)

/-- Reads the attribute whose key starts with `first`. -/
def readKeyed (total : Nat) (seen : List (String × Nat)) (pos : Nat) (first : Char)
    (cs : List Char) : Except AttributeFault RawAttribute :=
  let keyChars := first :: cs.takeWhile isKeyChar
  let key := String.ofList keyChars
  let afterKey := cs.dropWhile isKeyChar
  let equals := pos + Text.byteLength keyChars + (afterKey.takeWhile isSpace).length
  match afterKey.dropWhile isSpace with
  | [] => .error (.missingEquals total)
  | c :: cs =>
    if c = '=' then
      match seen.lookup key with
      | some previous => .error (.repeated pos previous)
      | none =>
        match readValue total (equals + 1) cs with
        | .ok (value, pos', rest) => .ok ⟨key, pos, value, pos', rest⟩
        | .error fault => .error fault
    else
      .error (.missingEquals equals)

/-- Reads the next attribute of a tag of `total` bytes, if there is one. -/
def readAttribute (total : Nat) (seen : List (String × Nat)) (pos : Nat) (cs : List Char) :
    Except AttributeFault (Option RawAttribute) :=
  match cs.dropWhile isSpace with
  | [] => .ok none
  | first :: rest =>
    (readKeyed total seen (pos + (cs.takeWhile isSpace).length) first rest).map some

/-! ## The rest is shorter -/

theorem length_dropWhile_le (p : Char → Bool) (cs : List Char) :
    (cs.dropWhile p).length ≤ cs.length :=
  (List.dropWhile_sublist p).length_le

theorem readValue_rest_lt {total pos pos' : Nat} {cs value rest : List Char}
    (h : readValue total pos cs = .ok (value, pos', rest)) : rest.length < cs.length := by
  have hle := length_dropWhile_le isSpace cs
  unfold readValue at h
  simp only at h
  split at h
  · cases h
  · rename_i heq
    rw [heq] at hle
    split at h
    · split at h
      · rename_i hcut
        have hlt := Text.cutFirst_after_lt (by simp) hcut
        cases h
        simp only [List.length_cons] at hle
        omega
      · cases h
    · cases h

theorem readKeyed_rest_lt {total pos : Nat} {seen : List (String × Nat)} {first : Char}
    {cs : List Char} {a : RawAttribute} (h : readKeyed total seen pos first cs = .ok a) :
    a.rest.length < cs.length := by
  have hkey := length_dropWhile_le isKeyChar cs
  have hgap := length_dropWhile_le isSpace (cs.dropWhile isKeyChar)
  unfold readKeyed at h
  simp only at h
  split at h
  · cases h
  · rename_i heq
    rw [heq] at hgap
    split at h
    · split at h
      · cases h
      · split at h
        · rename_i hvalue
          have hlt := readValue_rest_lt hvalue
          cases h
          simp only [List.length_cons] at hgap ⊢
          omega
        · cases h
    · cases h

theorem readAttribute_rest_lt {total pos : Nat} {seen : List (String × Nat)} {cs : List Char}
    {a : RawAttribute} (h : readAttribute total seen pos cs = .ok (some a)) :
    a.rest.length < cs.length := by
  have hle := length_dropWhile_le isSpace cs
  unfold readAttribute at h
  split at h
  · cases h
  · rename_i first rest heq
    rw [heq] at hle
    cases hkeyed : readKeyed total seen (pos + (cs.takeWhile isSpace).length) first rest with
    | error fault => rw [hkeyed] at h; cases h
    | ok b =>
        rw [hkeyed] at h
        cases h
        have hlt := readKeyed_rest_lt hkeyed
        simp only [List.length_cons] at hle
        omega

/-! ## All attributes -/

/-- The attributes of the tag's text from byte `pos` on; `seen` holds the
keys before it with their offsets. -/
def readAttributes (total : Nat) (seen : List (String × Nat)) (pos : Nat) (cs : List Char) :
    Except Fault (List (String × String)) :=
  match _read : readAttribute total seen pos cs with
  | .error fault => .error (.attribute fault)
  | .ok none => .ok []
  | .ok (some a) =>
    match Entity.decode a.value with
    | .error fault => .error (.entity fault)
    | .ok value =>
      match readAttributes total ((a.key, a.keyOffset) :: seen) a.pos a.rest with
      | .error fault => .error fault
      | .ok attributes => .ok ((a.key, value) :: attributes)
termination_by cs.length
decreasing_by exact readAttribute_rest_lt _read

/-- The keys and values of a tag. -/
def Tag.attributes (tag : Tag) : Except Fault (List (String × String)) :=
  let nameLength := Text.byteLength tag.name.toList
  let body := tag.body.toList
  readAttributes (nameLength + Text.byteLength body) [] nameLength body

end FxmlCodegen.Markup
