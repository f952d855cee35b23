import Lookout.Proofs.Json.Numerals
import Lookout.Proofs.Json.Strings

/-!
# Objects read back

An object whose members are written one after the other, each with a value that is read back wherever a member may
end, is read as these members in their order.
-/

namespace Lookout.Json
set_option autoImplicit false
open Payload

/-- What was written is read as a value wherever a member may end. -/
def Reads (written : Payload) (value : Raw) : Prop :=
  ∀ fuel rest, Ends rest → readValue (fuel + 1) (written ++ rest) = some (value, rest)

theorem reads_writeString (s : String) : Reads (writeString s) (.string (piecesOf s)) := by
  intro fuel rest _
  have opened : skipSpace (writeString s ++ rest) = ascii '"' :: ((ofText s).flatMap escapeByte ++ ascii '"' :: rest) := by
    simp [writeString, skipSpace, isSpace, ascii]
  rw [readValue, opened]
  simp only [if_true, readString_written, Option.map_some, piecesOf]

theorem skipSpace_of_not_space {b : UInt8} (r : Payload) (solid : isSpace b = false) : skipSpace (b :: r) = b :: r := by
  simp [skipSpace, solid]

theorem readValue_digit {b : UInt8} (fuel : Nat) (r : Payload) (numeric : isDigit b = true) :
    readValue (fuel + 1) (b :: r) = (readNumeral false (b :: r)).map fun p => (.number p.1, p.2) := by
  have other : ∀ c : UInt8, isDigit c = false → b ≠ c := by
    rintro c noDigit rfl
    exact Bool.false_ne_true (noDigit.symm.trans numeric)
  have solid : isSpace b = false := by
    simp [isSpace, other 0x20 rfl, other 0x09 rfl, other 0x0A rfl, other 0x0D rfl]
  rw [readValue, skipSpace_of_not_space r solid]
  simp only [other (ascii '"') rfl, other (ascii '\x7b') rfl, other (ascii '[') rfl, other (ascii '-') rfl, numeric,
    if_false, if_true]

theorem reads_integer (i : Int) : Reads (ofText (toString i)) (.number (numeralOf i)) := by
  intro fuel rest ends
  cases i with
  | ofNat n =>
    have read := readNumeral_written false n ends
    have first : ∃ b r, ofText (toString n) ++ rest = b :: r ∧ isDigit b = true := by
      obtain ⟨c, cs, digits, digit⟩ := Text.exists_toDigits_eq_cons n
      refine ⟨ascii c, cs.map ascii ++ rest, by rw [ofText_toString, digits]; rfl, ?_⟩
      exact (isDigit_ascii digit).1
    obtain ⟨b, r, same, numeric⟩ := first
    change readValue (fuel + 1) (ofText (toString n) ++ rest) = _
    rw [same] at read ⊢
    rw [readValue_digit fuel r numeric, read]
    rfl
  | negSucc n =>
    have written : ofText (toString (Int.negSucc n)) = ascii '-' :: ofText (toString (n + 1)) :=
      ofText_append "-" (toString (n + 1))
    rw [written, List.cons_append, readValue, skipSpace_of_not_space _ rfl]
    simp only [if_neg (show ascii '-' ≠ ascii '"' by decide), if_neg (show ascii '-' ≠ ascii '\x7b' by decide),
      if_neg (show ascii '-' ≠ ascii '[' by decide), if_true, readNumeral_written true (n + 1) ends]
    simp [numeralOf]

theorem ofRaw?_text (depth : Nat) (s : String) : Value.ofRaw? depth (.string (piecesOf s)) = some (.string s) := by
  cases depth <;> simp [Value.ofRaw?, text?_piecesOf]

theorem ofRaw?_integer (depth : Nat) (i : Int64) :
    Value.ofRaw? depth (.number (numeralOf i.toInt)) = some (.number (numberOf i.toInt)) := by
  obtain ⟨low, high⟩ := Text.int64_range i
  cases depth <;> simp [Value.ofRaw?, ofNumeral?_numeralOf low (Text.le_maxWord64 high)]

/-- A member of an object in writing, with what is read of its value and what that stands for. -/
structure Member where
  name : String
  written : Payload
  raw : Raw
  value : Value
  reads : Reads written raw
  stands : ∀ depth, Value.ofRaw? depth raw = some value

namespace Member

/-- A member that is a text. -/
def text (name s : String) : Member where
  name := name
  written := writeString s
  raw := .string (piecesOf s)
  value := .string s
  reads := reads_writeString s
  stands depth := ofRaw?_text depth s

/-- A member that is a whole number of 64 bits with a sign. -/
def integer (name : String) (i : Int64) : Member where
  name := name
  written := ofText (toString i.toInt)
  raw := .number (numeralOf i.toInt)
  value := .number (numberOf i.toInt)
  reads := reads_integer i.toInt
  stands depth := ofRaw?_integer depth i

end Member

/-- A member in writing. -/
def writeMember (m : Member) : Payload :=
  writeString m.name ++ ascii ':' :: m.written

/-- Members in writing, with commas between them. -/
def writeMembers (members : List Member) : Payload :=
  List.intercalate [ascii ','] (members.map writeMember)

/-- An object in writing. -/
def writeObject (members : List Member) : Payload :=
  ascii '\x7b' :: writeMembers members ++ [ascii '\x7d']

theorem writeStrings_eq (members : List (String × String)) :
    writeStrings members = writeObject (members.map fun m => .text m.1 m.2) := by
  simp [writeStrings, writeObject, writeMembers, writeMember, Member.text, Function.comp_def]

theorem writeMembers_singleton (m : Member) : writeMembers [m] = writeMember m := by
  simp [writeMembers]

theorem writeMembers_cons_cons (m m' : Member) (members : List Member) :
    writeMembers (m :: m' :: members) = writeMember m ++ ascii ',' :: writeMembers (m' :: members) := by
  simp [writeMembers, List.intercalate_cons_cons]

/-- A member as it is read. -/
def Member.pair (m : Member) : List Piece × Raw :=
  (piecesOf m.name, m.raw)

/-- Reads one member, and goes on by what follows it. -/
theorem readMembers_writeMember (m : Member) (fuel : Nat) {b : UInt8} (r : Payload) (ends : Ends (b :: r)) :
    readMembers (fuel + 2) (writeMember m ++ b :: r) =
      if b = ascii '\x7d' then some ([m.pair], r)
      else (readMembers (fuel + 1) r).map fun p => (m.pair :: p.1, p.2) := by
  have solid : isSpace b = false := by
    rcases ends b rfl with rfl | rfl <;> decide
  have opened : skipSpace (writeMember m ++ b :: r) =
      ascii '"' :: ((ofText m.name).flatMap escapeByte ++ ascii '"' :: ascii ':' :: (m.written ++ b :: r)) := by
    simp [writeMember, writeString, skipSpace, isSpace, ascii]
  rw [readMembers, opened]
  simp only [if_true, readString_written]
  rw [skipSpace_of_not_space _ rfl]
  simp only [if_true, m.reads fuel (b :: r) ends]
  rw [skipSpace_of_not_space _ solid]
  rcases ends b rfl with rfl | rfl
  · rfl
  · rfl

theorem readMembers_writeMembers {members : List Member} (nonempty : members ≠ []) (fuel : Nat) (rest : Payload)
    (enough : members.length ≤ fuel) :
    readMembers (fuel + 1) (writeMembers members ++ ascii '\x7d' :: rest) = some (members.map Member.pair, rest) := by
  induction members generalizing fuel with
  | nil => exact absurd rfl nonempty
  | cons m members ih =>
    obtain ⟨fuel, rfl⟩ := Nat.exists_eq_succ_of_ne_zero (Nat.ne_of_gt (Nat.lt_of_lt_of_le (Nat.succ_pos _) enough))
    cases members with
    | nil => simpa [writeMembers_singleton] using readMembers_writeMember m fuel rest (ends_brace rest)
    | cons m' members =>
      have others := ih (by simp) fuel (Nat.le_of_succ_le_succ enough)
      rw [writeMembers_cons_cons, List.append_assoc, List.cons_append,
        readMembers_writeMember m fuel _ (ends_comma _), if_neg (by decide), others]
      rfl

theorem length_le_writeMembers (members : List Member) : members.length ≤ (writeMembers members).length := by
  induction members with
  | nil => exact Nat.le_refl _
  | cons m members ih =>
    cases members with
    | nil => simp [writeMembers_singleton, writeMember, writeString]
    | cons m' members =>
      rw [writeMembers_cons_cons]
      simp only [List.length_append, List.length_cons] at ih ⊢
      omega

/-- The first member begins with a quote. -/
theorem writeMembers_cons (m : Member) (members : List Member) :
    ∃ t, writeMembers (m :: members) = ascii '"' :: t := by
  cases members with
  | nil => exact ⟨_, writeMembers_singleton m⟩
  | cons m' members => exact ⟨_, writeMembers_cons_cons m m' members⟩

/-- An object in writing is read as its members. -/
theorem ofPayload?_writeObject {members : List Member} (nonempty : members ≠ []) :
    Raw.ofPayload? (writeObject members) = some (.object (members.map Member.pair)) := by
  obtain ⟨m, others, rfl⟩ := List.exists_cons_of_ne_nil nonempty
  obtain ⟨t, quoted⟩ := writeMembers_cons m others
  have size := length_le_writeMembers (m :: others)
  have length : (writeObject (m :: others)).length = (writeMembers (m :: others)).length + 2 := by
    simp [writeObject]
  -- a member takes one step of the bound, and at least one byte
  have more : 0 < 2 * (writeObject (m :: others)).length := by omega
  obtain ⟨fuel, steps⟩ := Nat.exists_eq_succ_of_ne_zero (Nat.ne_of_gt more)
  have read := readMembers_writeMembers nonempty fuel [] (by omega)
  have first : skipSpace (writeMembers (m :: others) ++ [ascii '\x7d']) = ascii '"' :: (t ++ [ascii '\x7d']) := by
    rw [quoted, List.cons_append, skipSpace_of_not_space _ rfl]
  rw [Raw.ofPayload?, steps, readValue, writeObject, List.cons_append, skipSpace_of_not_space _ rfl]
  simp only [if_neg (show ascii '\x7b' ≠ ascii '"' by decide), if_true, first,
    if_neg (show ascii '"' ≠ ascii '\x7d' by decide), read, Option.map_some]
  rfl

/-- What an object in writing stands for. -/
theorem object?_writeObject {members : List Member} (nonempty : members ≠ []) :
    object? (writeObject members) = some (members.map fun m => (m.name, m.value)) := by
  have values : ∀ depth, (members.map Member.pair).mapM (fun m =>
      (text? m.1).bind fun name => (Value.ofRaw? depth m.2).map (name, ·)) =
        some (members.map fun m => (m.name, m.value)) := by
    intro depth
    clear nonempty
    induction members with
    | nil => rfl
    | cons m members ih =>
      rw [List.map_cons, List.mapM_cons, ih]
      simp [Member.pair, text?_piecesOf, m.stands depth]
  rw [object?, ofPayload?_writeObject nonempty]
  simp [maxDepth, Value.ofRaw?, values]

end Lookout.Json
