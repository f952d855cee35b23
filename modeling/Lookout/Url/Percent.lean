import Lookout.Payload

/-!
# Percent encoding

Characters that mean something where they stand are written as the percent sign and two hexadecimal
digits for each of their UTF-8 bytes. Which characters those are depends on the part of the URL;
characters outside ASCII and control characters always are.
-/

namespace Lookout.Url
set_option autoImplicit false

/-- A set of ASCII characters to be encoded besides control characters. -/
abbrev EncodeSet := Char → Bool

def controlSet : EncodeSet := fun _ => false

def fragmentSet : EncodeSet := fun c => " \"<>`".toList.contains c

def querySet : EncodeSet := fun c => " \"#<>".toList.contains c

/-- The set for the query of a special URL. -/
def specialQuerySet : EncodeSet := fun c => querySet c || c == '\''

def pathSet : EncodeSet := fun c => fragmentSet c || "#?\x7b\x7d".toList.contains c

def userinfoSet : EncodeSet := fun c => pathSet c || "/:;=@[\\]^|".toList.contains c

/-- Whether a character is written as it is. -/
def staysPlain (encoded : EncodeSet) (c : Char) : Bool :=
  0x20 ≤ c.toNat && c.toNat < 0x7F && !encoded c

def upperHexDigit (n : Nat) : Char :=
  (Nat.digitChar n).toUpper

/-- One byte as the percent sign and two digits. -/
def percentByte (b : UInt8) : List Char :=
  ['%', upperHexDigit (b.toNat / 16), upperHexDigit (b.toNat % 16)]

/-- One character as it is written where `encoded` is in force. -/
def percentChar (encoded : EncodeSet) (c : Char) : List Char :=
  if staysPlain encoded c then [c] else (String.utf8EncodeChar c).flatMap percentByte

def percentEncode (encoded : EncodeSet) (s : List Char) : List Char :=
  s.flatMap (percentChar encoded)

/-- The value of a hexadecimal digit. -/
def hexValue? (c : Char) : Option Nat :=
  if c.isDigit then some (c.toNat - '0'.toNat)
  else if 'a' ≤ c && c ≤ 'f' then some (c.toNat - 'a'.toNat + 10)
  else if 'A' ≤ c && c ≤ 'F' then some (c.toNat - 'A'.toNat + 10)
  else none

/-- The bytes of a percent encoded text. A percent sign that two hexadecimal digits do not follow
stands for itself. -/
def percentDecode : List Char → Payload
  | [] => []
  | '%' :: a :: b :: r =>
    match hexValue? a, hexValue? b with
    | some x, some y => (x * 16 + y).toUInt8 :: percentDecode r
    | _, _ => 0x25 :: percentDecode (a :: b :: r)
  | c :: r => String.utf8EncodeChar c ++ percentDecode r

end Lookout.Url
