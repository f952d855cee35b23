/-!
# Payloads

What travels through a queue: bytes, which most often are a text in UTF-8. Where a text is needed for any
bytes they are written in Base64, in the standard alphabet: four digits for each three bytes, padded with
equals signs at the end. Only the canonical form is read: padding is needed and unused bits are zero.
-/

namespace Lookout
set_option autoImplicit false

/-- The content of a message, a file or a reply. -/
abbrev Payload := List UInt8

namespace Payload

/-- The UTF-8 bytes of a text. -/
def ofText (s : String) : Payload :=
  s.toByteArray.data.toList

/-- The text whose UTF-8 bytes these are; none if they are not UTF-8. -/
def text? (p : Payload) : Option String :=
  String.fromUTF8? ⟨p.toArray⟩

theorem text?_ofText (s : String) : text? (ofText s) = some s := by
  have e : (⟨s.toByteArray.data.toList.toArray⟩ : ByteArray) = s.toByteArray := by simp
  simp only [text?, ofText, e, String.fromUTF8?]
  have valid : s.toByteArray.IsValidUTF8 := s.isValidUTF8
  simp [String.fromUTF8, valid]

/-- A payload is read as a text from the bytes of that text. -/
theorem text?_eq_some_iff {p : Payload} {s : String} : text? p = some s ↔ p = ofText s := by
  constructor
  · intro read
    simp only [text?, String.fromUTF8?] at read
    split at read
    · obtain rfl := Option.some.inj read
      simp [ofText, String.fromUTF8]
    · cases read
  · rintro rfl
    exact text?_ofText s

/-- The byte of an ASCII character. -/
def ascii (c : Char) : UInt8 :=
  c.toNat.toUInt8

end Payload

namespace Base64

/-- The value of a digit. -/
def digitValue? (c : Char) : Option Nat :=
  if c.isUpper then some (c.toNat - 'A'.toNat)
  else if c.isLower then some (c.toNat - 'a'.toNat + 26)
  else if c.isDigit then some (c.toNat - '0'.toNat + 52)
  else if c == '+' then some 62
  else if c == '/' then some 63
  else none

/-- The bytes of a text in Base64. -/
def decode? : List Char → Option Payload
  | [] => some []
  | [a, b, '=', '='] => do
    let n := (← digitValue? a) * 64 + (← digitValue? b)
    if n % 16 = 0 then some [(n / 16).toUInt8] else none
  | [a, b, c, '='] => do
    let n := ((← digitValue? a) * 64 + (← digitValue? b)) * 64 + (← digitValue? c)
    if n % 4 = 0 then some [(n / 1024).toUInt8, (n / 4).toUInt8] else none
  | a :: b :: c :: d :: r => do
    let n := (((← digitValue? a) * 64 + (← digitValue? b)) * 64 + (← digitValue? c)) * 64 + (← digitValue? d)
    let rest ← decode? r
    return (n / 65536).toUInt8 :: (n / 256).toUInt8 :: n.toUInt8 :: rest
  | _ => none

end Base64

end Lookout
