import FxmlCodegen.Text.Lossy
import Mathlib.Algebra.Group.Nat.Defs

/-!
# What bytes are shown as

`Text.lossy` held against the UTF-8 forms of characters. The form of a text
is shown as that text (`lossy_bytes`). Of other bytes, characters are shown
where their forms stand, and each part that is not UTF-8 is shown as one
U+FFFD: the longest bytes there that some character begins with, or one
byte where there are none (`shownAs_iff`).

The decoder keeps what it has read of a character as a state. It comes to
the end of a character exactly on the form of that character
(`finishes_none_iff`). There are no dead ends, as each state can be finished
(`exists_finishes`), so a byte is refused only if no character goes on with
it.
-/

namespace FxmlCodegen.Text

theorem bytes_eq_flatMap (s : String) : bytes s = s.toList.flatMap String.utf8EncodeChar := by
  rw [bytes, String.toUTF8_eq_toByteArray, ← String.utf8Encode_toList, List.utf8Encode,
    List.toList_data_toByteArray]

/-! ## The form of a character -/

/-- How many bytes follow the first byte of a character. -/
def followingBytes (c : Char) : Nat :=
  if c.toNat < 0x80 then 0 else if c.toNat < 0x800 then 1 else if c.toNat < 0x10000 then 2 else 3

/-- The last `count` bytes of the character with the number `n`. Each holds
six bits of the number. -/
def lastBytes (n : Nat) : (count : Nat) → List UInt8
  | 0 => []
  | count + 1 => UInt8.ofNat (n / 64 ^ count % 64 + 128) :: lastBytes n count

theorem toNat_lt (c : Char) : c.toNat < 0x110000 := by
  rcases c.valid with h | h
  · exact Nat.lt_trans h (by decide)
  · exact h.2

theorem utf8EncodeChar_eq_cons (c : Char) :
    String.utf8EncodeChar c = UInt8.ofNat (leadByte c) :: lastBytes c.toNat (followingBytes c) := by
  have hc := toNat_lt c
  unfold String.utf8EncodeChar leadByte followingBytes
  rw [show c.val.toNat = c.toNat from rfl]
  simp only [← Nat.lt_succ_iff]
  -- The modulus of the first byte does nothing, as the number is in range.
  split
  · rfl
  · split
    · rw [Nat.mod_eq_of_lt (by omega), Nat.add_comm]
      simp only [lastBytes, Nat.pow_zero, Nat.div_one]
    · split
      · rw [Nat.mod_eq_of_lt (by omega), Nat.add_comm]
        simp only [lastBytes, Nat.pow_zero, Nat.div_one, Nat.pow_one]
      · rw [Nat.mod_eq_of_lt (by omega), Nat.add_comm]
        simp only [lastBytes, Nat.pow_zero, Nat.div_one, Nat.pow_one, Nat.reducePow]

theorem leadByte_cases (c : Char) :
    (followingBytes c = 0 ∧ c.toNat < 0x80 ∧ leadByte c = c.toNat)
    ∨ (followingBytes c = 1 ∧ 0x80 ≤ c.toNat ∧ c.toNat < 0x800 ∧ leadByte c = 0xC0 + c.toNat / 0x40)
    ∨ (followingBytes c = 2 ∧ 0x800 ≤ c.toNat ∧ c.toNat < 0x10000
      ∧ leadByte c = 0xE0 + c.toNat / 0x1000)
    ∨ (followingBytes c = 3 ∧ 0x10000 ≤ c.toNat ∧ leadByte c = 0xF0 + c.toNat / 0x40000) := by
  unfold followingBytes leadByte
  dsimp only
  (repeat' split) <;> omega

theorem leadByte_lt (c : Char) : leadByte c < 256 := by
  have hc := toNat_lt c
  rcases leadByte_cases c with h | h | h | h
  all_goals omega

theorem leadByte_of_lt {c : Char} (hc : c.toNat < 0x80) :
    leadByte c = c.toNat ∧ followingBytes c = 0 := by
  rcases leadByte_cases c with h | h | h | h
  all_goals omega

/-! ## Finishing a character -/

/-- Read in this state, the bytes come to the end of the character. -/
inductive Finishes : Option Unfinished → List UInt8 → Char → Prop
  | last {state : Option Unfinished} {b : UInt8} {c : Char} :
      accept? state b = some (.whole c) → Finishes state [b] c
  | next {state : Option Unfinished} {b : UInt8} {u : Unfinished} {bs : List UInt8} {c : Char} :
      accept? state b = some (.part u) → Finishes (some u) bs c → Finishes state (b :: bs) c

namespace Unfinished

/-- The number may come of the unfinished character. -/
def Admits (u : Unfinished) (n : Nat) : Prop :=
  n / 64 ^ (u.more + 1) = u.bits
    ∧ u.least ≤ n / 64 ^ u.more % 64 + 0x80 ∧ n / 64 ^ u.more % 64 + 0x80 ≤ u.greatest

theorem admits_mk {bits more n : Nat} :
    Admits { bits, more } n ↔ n / 64 ^ (more + 1) = bits := by
  simp only [Admits, and_iff_left_iff_imp]
  omega

/-- The next byte of an admitted number says six bits of it. -/
theorem admits_and_eq {u : Unfinished} {n : Nat} {b : UInt8} :
    u.Admits n ∧ b = UInt8.ofNat (n / 64 ^ u.more % 64 + 0x80)
      ↔ (u.least ≤ b.toNat ∧ b.toNat ≤ u.greatest)
        ∧ n / 64 ^ u.more = u.bits * 64 + (b.toNat - 0x80) := by
  have hge := u.least_ge
  have hle := u.greatest_le
  rw [Admits, Nat.pow_succ, ← Nat.div_div_eq_div_mul, ← UInt8.toNat_inj, UInt8.toNat_ofNat']
  generalize n / 64 ^ u.more = q
  omega

end Unfinished

theorem finishes_cons_iff {state : Option Unfinished} {b : UInt8} {bs : List UInt8} {c : Char} :
    Finishes state (b :: bs) c ↔ (accept? state b = some (.whole c) ∧ bs = [])
      ∨ ∃ u, accept? state b = some (.part u) ∧ Finishes (some u) bs c := by
  constructor
  · intro h
    cases h with
    | last hb => exact .inl ⟨hb, rfl⟩
    | next hb hbs => exact .inr ⟨_, hb, hbs⟩
  · rintro (⟨hb, rfl⟩ | ⟨u, hb, hbs⟩)
    · exact .last hb
    · exact .next hb hbs

theorem not_finishes_nil {state : Option Unfinished} {c : Char} : ¬Finishes state [] c := by
  intro h
  cases h

theorem accept?_some_iff {u : Unfinished} {b : UInt8} {progress : Progress} :
    accept? (some u) b = some progress
      ↔ (u.least ≤ b.toNat ∧ b.toNat ≤ u.greatest) ∧ u.add b.toNat = progress := by
  rw [accept?, Unfinished.next?, Option.ite_none_right_eq_some, Option.some_inj]

/-- An unfinished character is finished by the last bytes of the numbers
that may come of it. -/
theorem finishes_some_iff {u : Unfinished} {bs : List UInt8} {c : Char} :
    Finishes (some u) bs c
      ↔ ∃ n, u.Admits n ∧ bs = lastBytes n (u.more + 1) ∧ c = Char.ofNat n := by
  induction bs generalizing u with
  | nil => simp [not_finishes_nil, lastBytes]
  | cons b bs ih =>
      have hadd : (u.add b.toNat = .whole c ∧ bs = [])
            ∨ (∃ u', u.add b.toNat = .part u' ∧ Finishes (some u') bs c)
          ↔ ∃ n, n / 64 ^ u.more = u.bits * 64 + (b.toNat - 0x80) ∧ bs = lastBytes n u.more
            ∧ c = Char.ofNat n := by
        unfold Unfinished.add
        cases u.more with
        | zero => simp [lastBytes, and_comm, eq_comm]
        | succ more => simp [ih, Unfinished.admits_mk]
      have hfirst : ∀ n, u.Admits n ∧ b :: bs = lastBytes n (u.more + 1) ∧ c = Char.ofNat n
          ↔ (u.Admits n ∧ b = UInt8.ofNat (n / 64 ^ u.more % 64 + 0x80)) ∧ bs = lastBytes n u.more
            ∧ c = Char.ofNat n := by
        intro n
        rw [lastBytes, List.cons.injEq, and_assoc, and_assoc]
      simp only [finishes_cons_iff, accept?_some_iff, hfirst, Unfinished.admits_and_eq, and_assoc,
        exists_and_left, ← and_or_left, hadd]

theorem toNat_ofNat {n : Nat} (h : n.isValidChar) : (Char.ofNat n).toNat = n := by
  rw [Char.ofNat, dif_pos h]
  rfl

namespace Unfinished

variable {b : Nat} {u : Unfinished}

theorem ofLead?_cases (h : ofLead? b = some u) :
    (u.more = 0 ∧ 0xC2 ≤ b ∧ b < 0xE0 ∧ u.bits = b - 0xC0 ∧ u.least = 0x80 ∧ u.greatest = 0xBF)
    ∨ (u.more = 1 ∧ 0xE0 ≤ b ∧ b < 0xF0 ∧ u.bits = b - 0xE0
      ∧ (b = 0xE0 ∧ u.least = 0xA0 ∨ b ≠ 0xE0 ∧ u.least = 0x80)
      ∧ (b = 0xED ∧ u.greatest = 0x9F ∨ b ≠ 0xED ∧ u.greatest = 0xBF))
    ∨ (u.more = 2 ∧ 0xF0 ≤ b ∧ b < 0xF5 ∧ u.bits = b - 0xF0
      ∧ (b = 0xF0 ∧ u.least = 0x90 ∨ b ≠ 0xF0 ∧ u.least = 0x80)
      ∧ (b = 0xF4 ∧ u.greatest = 0x8F ∨ b ≠ 0xF4 ∧ u.greatest = 0xBF)) := by
  have hite : ∀ k x y : Nat, b = k ∧ (if b = k then x else y) = x
      ∨ b ≠ k ∧ (if b = k then x else y) = y := by
    intro k x y
    by_cases hk : b = k
    · exact .inl ⟨hk, if_pos hk⟩
    · exact .inr ⟨hk, if_neg hk⟩
  unfold ofLead? at h
  split at h
  · cases h
  split at h
  · obtain rfl := Option.some.inj h
    exact .inl ⟨rfl, by omega, by omega, rfl, rfl, rfl⟩
  split at h
  · obtain rfl := Option.some.inj h
    exact .inr (.inl ⟨rfl, by omega, by omega, rfl, hite _ _ _, hite _ _ _⟩)
  split at h
  · obtain rfl := Option.some.inj h
    exact .inr (.inr ⟨rfl, by omega, by omega, rfl, hite _ _ _, hite _ _ _⟩)
  · cases h

/-- A number that may come of a first byte is neither a surrogate nor too
great. -/
theorem Admits.isValidChar {n : Nat} (hadmits : u.Admits n) (h : ofLead? b = some u) :
    n.isValidChar := by
  unfold Admits at hadmits
  rcases ofLead?_cases h with ⟨hmore, hb⟩ | ⟨hmore, hb⟩ | ⟨hmore, hb⟩
  all_goals
    rw [hmore] at hadmits
    omega

/-- The numbers that may come of a first byte are those of the characters
that begin with it. -/
theorem admits_toNat_iff (h : ofLead? b = some u) (c : Char) :
    u.Admits c.toNat ↔ leadByte c = b ∧ followingBytes c = u.more + 1 := by
  have hvalid : c.toNat.isValidChar := c.valid
  unfold Admits
  rcases ofLead?_cases h with ⟨hmore, hb⟩ | ⟨hmore, hb⟩ | ⟨hmore, hb⟩
  all_goals
    rw [hmore]
    rcases leadByte_cases c with hc | hc | hc | hc
    all_goals omega

theorem exists_ofLead? {c : Char} (hc : 0x80 ≤ c.toNat) :
    ∃ u, ofLead? (leadByte c) = some u ∧ followingBytes c = u.more + 1 := by
  have hlt := toNat_lt c
  unfold ofLead?
  rcases leadByte_cases c with h | h | h | h
  · omega
  · rw [if_neg (by omega), if_pos (by omega)]
    exact ⟨_, rfl, h.1⟩
  · rw [if_neg (by omega), if_neg (by omega), if_pos (by omega)]
    exact ⟨_, rfl, h.1⟩
  · rw [if_neg (by omega), if_neg (by omega), if_neg (by omega), if_pos (by omega)]
    exact ⟨_, rfl, h.1⟩

end Unfinished

theorem accept?_none_eq_whole {b : UInt8} {c : Char} :
    accept? none b = some (.whole c) ↔ b.toNat < 0x80 ∧ c = Char.ofNat b.toNat := by
  rw [accept?]
  by_cases hb : b.toNat < 0x80
  · simp [hb, eq_comm]
  · simp [hb]

theorem accept?_none_eq_part {b : UInt8} {u : Unfinished} :
    accept? none b = some (.part u) ↔ Unfinished.ofLead? b.toNat = some u := by
  rw [accept?]
  by_cases hb : b.toNat < 0x80
  · have hnone : Unfinished.ofLead? b.toNat = none := if_pos (Nat.lt_trans hb (by decide))
    simp [hb, hnone]
  · simp [hb]

/-- Between characters, what comes to the end of a character is the form of
that character. -/
theorem finishes_none_iff {bs : List UInt8} {c : Char} :
    Finishes none bs c ↔ bs = String.utf8EncodeChar c := by
  rw [utf8EncodeChar_eq_cons]
  constructor
  · intro h
    cases h with
    | last haccept =>
        obtain ⟨hb, rfl⟩ := accept?_none_eq_whole.mp haccept
        have hnat := toNat_ofNat (.inl (Nat.lt_trans hb (by decide : 0x80 < 0xD800)))
        obtain ⟨hlead, hfollowing⟩ := leadByte_of_lt (hnat.symm ▸ hb)
        rw [hlead, hfollowing, hnat, UInt8.ofNat_toNat, lastBytes]
    | next haccept hbs =>
        have hlead := accept?_none_eq_part.mp haccept
        obtain ⟨n, hadmits, rfl, rfl⟩ := finishes_some_iff.mp hbs
        have hnat := toNat_ofNat (hadmits.isValidChar hlead)
        rw [← hnat] at hadmits
        obtain ⟨hb, hfollowing⟩ := (Unfinished.admits_toNat_iff hlead _).mp hadmits
        rw [hb, hfollowing, hnat, UInt8.ofNat_toNat]
  · rintro rfl
    have hlead : (UInt8.ofNat (leadByte c)).toNat = leadByte c :=
      UInt8.toNat_ofNat_of_lt' (leadByte_lt c)
    by_cases hc : c.toNat < 0x80
    · obtain ⟨hsame, hfollowing⟩ := leadByte_of_lt hc
      rw [hfollowing, lastBytes]
      refine .last (accept?_none_eq_whole.mpr ?_)
      rw [hlead, hsame]
      exact ⟨hc, (Char.ofNat_toNat c).symm⟩
    · obtain ⟨u, hu, hfollowing⟩ := Unfinished.exists_ofLead? (Nat.le_of_not_lt hc)
      refine .next (accept?_none_eq_part.mpr (hlead ▸ hu)) (finishes_some_iff.mpr ?_)
      refine ⟨c.toNat, (Unfinished.admits_toNat_iff hu c).mpr ⟨rfl, hfollowing⟩, ?_, ?_⟩
      · rw [hfollowing]
      · exact (Char.ofNat_toNat c).symm

/-- A character ends at the first byte at which one can end. -/
theorem Finishes.eq_nil {state : Option Unfinished} {part bs : List UInt8} {c d : Char}
    (h : Finishes state part c) (h' : Finishes state (part ++ bs) d) : bs = [] := by
  induction h with
  | last hb =>
      rcases finishes_cons_iff.mp h' with ⟨-, rfl⟩ | ⟨u, hpart, -⟩
      · rfl
      · rw [hb] at hpart
        cases hpart
  | next hb _ ih =>
      rcases finishes_cons_iff.mp h' with ⟨hwhole, -⟩ | ⟨u, hpart, hrest⟩
      · rw [hb] at hwhole
        cases hwhole
      · rw [hb] at hpart
        cases hpart
        exact ih hrest

/-- Every unfinished character can be finished. -/
theorem exists_finishes (u : Unfinished) : ∃ bs c, Finishes (some u) bs c := by
  have hge := u.least_ge
  have hle := u.greatest_le
  have hleast := u.least_le
  let n := (u.bits * 64 + (u.least - 0x80)) * 64 ^ u.more
  have hn : n / 64 ^ u.more = u.bits * 64 + (u.least - 0x80) :=
    Nat.mul_div_cancel _ (Nat.pow_pos (by decide))
  have hadmits : u.Admits n := by
    rw [Unfinished.Admits, Nat.pow_succ, ← Nat.div_div_eq_div_mul, hn]
    omega
  exact ⟨_, _, finishes_some_iff.mpr ⟨n, hadmits, rfl, rfl⟩⟩

/-! ## Text -/

theorem decodeFrom_of_finishes {state : Option Unfinished} {part : List UInt8} {c : Char}
    (h : Finishes state part c) (bs : List UInt8) :
    decodeFrom state (part ++ bs) = c :: decodeFrom none bs := by
  induction h with
  | last hb => exact decodeFrom_whole bs hb
  | next hb _ ih =>
      rw [List.cons_append, decodeFrom_part _ hb]
      exact ih

/-- The form of a text is shown as the text. -/
theorem lossy_bytes (s : String) : lossy (bytes s) = s := by
  have hchars : ∀ cs : List Char, decodeFrom none (cs.flatMap String.utf8EncodeChar) = cs := by
    intro cs
    induction cs with
    | nil => rfl
    | cons c cs ih =>
        rw [List.flatMap_cons, decodeFrom_of_finishes (finishes_none_iff.mpr rfl), ih]
  rw [lossy, bytes_eq_flatMap, hchars, String.ofList_toList]

/-- Only the form of a text is shown as it is. -/
theorem bytes_lossy_iff {bs : List UInt8} : bytes (lossy bs) = bs ↔ ∃ s, bytes s = bs := by
  constructor
  · exact fun h => ⟨lossy bs, h⟩
  · rintro ⟨s, rfl⟩
    rw [lossy_bytes]

/-- Bytes that begin with an ASCII character are shown on their own. -/
theorem decodeFrom_append {b : UInt8} (hb : b.toNat < 0x80) (state : Option Unfinished)
    (bs rest : List UInt8) :
    decodeFrom state (bs ++ b :: rest) = decodeFrom state bs ++ decodeFrom none (b :: rest) := by
  induction bs generalizing state with
  | nil =>
      cases state with
      | none => rfl
      | some u =>
          have hrefused : accept? (some u) b = none := by
            have hge := u.least_ge
            rw [accept?, Unfinished.next?, if_neg (by omega)]
          rw [List.nil_append, decodeFrom_ended rest hrefused]
          rfl
  | cons b' bs ih => rw [List.cons_append, decodeFrom, decodeFrom, ih, List.append_assoc]

/-- A text that begins with an ASCII character is shown as it is, whatever
stands before it. -/
theorem lossy_append {s : String} {b : UInt8} {rest : List UInt8} (hs : bytes s = b :: rest)
    (hb : b.toNat < 0x80) (bs : List UInt8) : lossy (bs ++ bytes s) = lossy bs ++ s := by
  rw [lossy, hs, decodeFrom_append hb, ← hs, String.ofList_append]
  exact congrArg (lossy bs ++ ·) (lossy_bytes s)

/-! ## Parts that are not UTF-8 -/

/-- Some character begins with the bytes. -/
def Begins (part : List UInt8) : Prop := ∃ c, part <+: String.utf8EncodeChar c

/-- In front of `rest`, the bytes `part` belong to no character. They are the
longest bytes there that some character begins with, or one byte if there
are none. -/
structure IllFormed (part rest : List UInt8) : Prop where
  ne_nil : part ≠ []
  begins : Begins part ∨ part.length = 1
  noChar : ∀ c, ¬String.utf8EncodeChar c <+: part ++ rest
  longest : ∀ longer, longer <+: part ++ rest → Begins longer → longer.length ≤ part.length

/-- The bytes are shown as the text: character by character, with U+FFFD for
each part that is not UTF-8. -/
inductive ShownAs : List UInt8 → List Char → Prop
  | nil : ShownAs [] []
  | char {bs : List UInt8} {cs : List Char} (c : Char) :
      ShownAs bs cs → ShownAs (String.utf8EncodeChar c ++ bs) (c :: cs)
  | replaced {part bs : List UInt8} {cs : List Char} :
      IllFormed part bs → ShownAs bs cs → ShownAs (part ++ bs) ('\uFFFD' :: cs)

/-- The characters that begin with the bytes read are those that can be
finished from here. -/
def Leads (read : List UInt8) (state : Option Unfinished) : Prop :=
  ∀ bs c, read ++ bs = String.utf8EncodeChar c ↔ Finishes state bs c

section Leads

variable {read : List UInt8} {state : Option Unfinished} {u : Unfinished} {b : UInt8}

theorem leads_nil : Leads [] none := fun _ _ => finishes_none_iff.symm

theorem Leads.part (h : Leads read state) (hb : accept? state b = some (.part u)) :
    Leads (read ++ [b]) (some u) := by
  intro bs c
  rw [List.append_assoc, List.singleton_append, h, finishes_cons_iff, hb]
  simp

theorem Leads.whole {c : Char} (h : Leads read state) (hb : accept? state b = some (.whole c)) :
    read ++ [b] = String.utf8EncodeChar c :=
  (h [b] c).mpr (.last hb)

/-- No character goes on with a byte that is refused. -/
theorem Leads.refused (h : Leads read state) (hb : accept? state b = none) (bs : List UInt8) :
    ¬Begins (read ++ b :: bs) := by
  rintro ⟨c, rest, hc⟩
  rw [List.append_assoc, List.cons_append, h, finishes_cons_iff, hb] at hc
  simp at hc

/-- What is unfinished is only the beginning of a character. -/
theorem Leads.begins (h : Leads read (some u)) : Begins read := by
  obtain ⟨bs, c, hfinishes⟩ := exists_finishes u
  exact ⟨c, bs, (h bs c).mpr hfinishes⟩

theorem Leads.begins_append {progress : Progress} (h : Leads read state)
    (hb : accept? state b = some progress) : Begins (read ++ [b]) := by
  cases progress with
  | whole c => exact ⟨c, h.whole hb ▸ List.prefix_rfl⟩
  | part u => exact (h.part hb).begins

theorem Leads.noChar (h : Leads read (some u)) (c : Char) : ¬String.utf8EncodeChar c <+: read := by
  rintro ⟨bs, rfl⟩
  obtain ⟨rest, d, hfinishes⟩ := exists_finishes u
  have hd := (h rest d).mpr hfinishes
  rw [List.append_assoc] at hd
  have hnil := (finishes_none_iff.mpr rfl).eq_nil (finishes_none_iff.mpr hd)
  rw [(List.append_eq_nil_iff.mp hnil).2] at hfinishes
  exact not_finishes_nil hfinishes

theorem Leads.length_le (h : Leads read state) (hb : accept? state b = none)
    {longer bs : List UInt8} (hpre : longer <+: read ++ b :: bs) (hbegins : Begins longer) :
    longer.length ≤ read.length := by
  refine Nat.le_of_not_lt fun hlt => h.refused hb [] ?_
  have hread : read ++ [b] <+: read ++ b :: bs := (List.prefix_append_right_inj read).mpr ⟨bs, rfl⟩
  have hlength : (read ++ [b]).length ≤ longer.length := by
    rw [List.length_append, List.length_singleton]
    exact hlt
  have hpart : read ++ [b] <+: longer := List.prefix_of_prefix_length_le hread hpre hlength
  obtain ⟨c, hc⟩ := hbegins
  exact ⟨c, hpart.trans hc⟩

end Leads

/-- A byte that begins no character is on its own. -/
theorem illFormed_misfit {b : UInt8} (hb : accept? none b = none) (bs : List UInt8) :
    IllFormed [b] bs where
  ne_nil := List.cons_ne_nil b []
  begins := .inr rfl
  noChar c hpre := by
    have hlength := leads_nil.length_le hb hpre ⟨c, List.prefix_rfl⟩
    rw [utf8EncodeChar_eq_cons] at hlength
    exact Nat.not_succ_le_zero _ hlength
  longest longer hpre hbegins :=
    Nat.le_succ_of_le (leads_nil.length_le hb hpre hbegins)

/-- What is unfinished at the end, or in front of a byte that is refused, is
as long as it can be. -/
theorem Leads.illFormed {read rest : List UInt8} {u : Unfinished} (h : Leads read (some u))
    (hne : read ≠ [])
    (hlongest : ∀ longer, longer <+: read ++ rest → Begins longer → longer.length ≤ read.length) :
    IllFormed read rest where
  ne_nil := hne
  begins := .inl h.begins
  noChar c hpre := by
    have hlength := hlongest _ hpre ⟨c, List.prefix_rfl⟩
    exact h.noChar c (List.prefix_of_prefix_length_le hpre (List.prefix_append read rest) hlength)
  longest := hlongest

theorem shownAs_decodeFrom (bs : List UInt8) :
    ShownAs bs (decodeFrom none bs)
      ∧ ∀ read u, read ≠ [] → Leads read (some u) → ShownAs (read ++ bs) (decodeFrom (some u) bs) := by
  induction bs with
  | nil =>
      refine ⟨.nil, fun read u hne h => .replaced (h.illFormed hne ?_) .nil⟩
      intro longer hpre _
      simpa using hpre.length_le
  | cons b bs ih =>
      have hfits : ∀ {read state progress}, Leads read state → accept? state b = some progress →
          ShownAs (read ++ b :: bs) (decodeFrom state (b :: bs)) := by
        intro read state progress h hb
        rw [List.append_cons]
        cases progress with
        | whole c =>
            rw [decodeFrom_whole bs hb, h.whole hb]
            exact .char c ih.1
        | part u =>
            rw [decodeFrom_part bs hb]
            exact ih.2 _ u (by simp) (h.part hb)
      have hfirst : ShownAs (b :: bs) (decodeFrom none (b :: bs)) := by
        cases hb : accept? none b with
        | none =>
            rw [decodeFrom_misfit bs hb]
            exact .replaced (illFormed_misfit hb bs) ih.1
        | some progress => exact hfits leads_nil hb
      refine ⟨hfirst, fun read u hne h => ?_⟩
      cases hb : accept? (some u) b with
      | none =>
          rw [decodeFrom_ended bs hb]
          exact .replaced (h.illFormed hne fun _ => h.length_le hb) hfirst
      | some progress => exact hfits h hb

/-- A part that is not UTF-8 is read to its end and no further. -/
theorem Leads.decodeFrom_illFormed {read part rest : List UInt8} {state : Option Unfinished}
    (h : Leads read state) (hstate : state = none ↔ read = [])
    (hpart : IllFormed (read ++ part) rest) :
    decodeFrom state (part ++ rest) = replacement :: decodeFrom none rest := by
  induction part generalizing read state with
  | nil =>
      rw [List.append_nil] at hpart
      obtain ⟨u, rfl⟩ := Option.ne_none_iff_exists'.mp (mt hstate.mp hpart.ne_nil)
      cases rest with
      | nil => rfl
      | cons b rest =>
          cases hb : accept? (some u) b with
          | none => exact decodeFrom_ended rest hb
          | some progress =>
              -- The part would be longer by this byte.
              have hlength := hpart.longest (read ++ [b]) ⟨rest, by simp⟩ (h.begins_append hb)
              rw [List.length_append, List.length_singleton] at hlength
              exact (Nat.not_succ_le_self _ hlength).elim
  | cons b part ih =>
      cases hb : accept? state b with
      | none =>
          rcases hpart.begins with hbegins | hlength
          · exact (h.refused hb part hbegins).elim
          · obtain ⟨rfl, rfl⟩ : read = [] ∧ part = [] := by
              rw [List.length_append, List.length_cons] at hlength
              exact ⟨List.length_eq_zero_iff.mp (by omega), List.length_eq_zero_iff.mp (by omega)⟩
            obtain rfl := hstate.mpr rfl
            exact decodeFrom_misfit rest hb
      | some progress =>
          rw [List.append_cons] at hpart
          cases progress with
          | whole c =>
              rw [h.whole hb] at hpart
              exact (hpart.noChar c ⟨part ++ rest, (List.append_assoc ..).symm⟩).elim
          | part u =>
              rw [List.cons_append, decodeFrom_part _ hb]
              exact ih (h.part hb) (by simp) hpart

/-- There is one text that bytes are shown as. -/
theorem shownAs_iff {bs : List UInt8} {s : String} : ShownAs bs s.toList ↔ lossy bs = s := by
  have hdecode : ∀ {cs}, ShownAs bs cs → decodeFrom none bs = cs := by
    intro cs h
    induction h with
    | nil => rfl
    | char c _ ih => rw [decodeFrom_of_finishes (finishes_none_iff.mpr rfl), ih]
    | replaced hpart _ ih =>
        rw [leads_nil.decodeFrom_illFormed (iff_of_true rfl rfl) hpart, ih]
        rfl
  constructor
  · intro h
    rw [lossy, hdecode h, String.ofList_toList]
  · rintro rfl
    rw [lossy, String.toList_ofList]
    exact (shownAs_decodeFrom bs).1

theorem shownAs_lossy (bs : List UInt8) : ShownAs bs (lossy bs).toList := shownAs_iff.mpr rfl

end FxmlCodegen.Text
