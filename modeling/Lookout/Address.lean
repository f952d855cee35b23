import Lookout.Text.Numeral
import Lookout.Text.Occurrence

/-!
# IP addresses

IPv4 and IPv6 addresses and their texts. The text of an IPv6 address leaves out the longest run of
zero groups, and an address that embeds an IPv4 address ends in the text of that.
-/

namespace Lookout
set_option autoImplicit false
open Text

/-- An IP address. -/
inductive Address where
  | v4 (octets : Vector UInt8 4)
  | v6 (groups : Vector UInt16 8)
deriving DecidableEq

namespace Address

/-- Whether the groups are those of an IPv4 address embedded as `::ffff:a.b.c.d`, and which. -/
def embedded? (groups : Vector UInt16 8) : Option (Vector UInt8 4) :=
  if groups.toList.take 6 = [0, 0, 0, 0, 0, 0xFFFF] then
    let high := groups[6]
    let low := groups[7]
    some #v[(high >>> 8).toUInt8, high.toUInt8, (low >>> 8).toUInt8, low.toUInt8]
  else none

/-- The address that is probed and reported: an embedded IPv4 address is that address. -/
def canonical : Address → Address
  | v4 octets => v4 octets
  | v6 groups =>
    match embedded? groups with
    | some octets => v4 octets
    | none => v6 groups

/-- The octets in decimal, joined by points. -/
def textV4 (octets : Vector UInt8 4) : List Char :=
  List.intercalate ['.'] (octets.toList.map fun o => Nat.toDigits 10 o.toNat)

/-- Groups in hexadecimal, joined by colons. -/
def textGroups (groups : List UInt16) : List Char :=
  List.intercalate [':'] (groups.map fun g => Nat.toDigits 16 g.toNat)

/-- How many zero groups come first. -/
def leadingZeros (groups : List UInt16) : Nat :=
  (groups.takeWhile (· == 0)).length

/-- Where the longest run of zero groups begins and how long it is; the first of several. -/
def longestZeros (groups : List UInt16) : Nat × Nat :=
  (List.range groups.length).foldl
    (fun best i => if best.2 < leadingZeros (groups.drop i) then (i, leadingZeros (groups.drop i)) else best)
    (0, 0)

/-- The groups of an IPv6 address; two colons stand for the longest run of two or more zero groups. -/
def textV6 (groups : List UInt16) : List Char :=
  let (start, length) := longestZeros groups
  if length < 2 then textGroups groups
  else textGroups (groups.take start) ++ [':', ':'] ++ textGroups (groups.drop (start + length))

/-- The address in writing. -/
def chars : Address → List Char
  | v4 octets => textV4 octets
  | v6 groups =>
    match embedded? groups with
    | some octets => "::ffff:".toList ++ textV4 octets
    | none => textV6 groups.toList

def text (a : Address) : String :=
  String.ofList a.chars

/-- An octet: up to three digits that do not begin with a zero too many. -/
def readOctet (s : List Char) : Option UInt8 :=
  match s with
  | '0' :: _ :: _ => none
  | _ =>
    if s.all Char.isDigit then
      match readNat 255 s with
      | .ok n => some n.toUInt8
      | .error _ => none
    else none

/-- Four octets joined by points. -/
def readV4 (s : List Char) : Option (Vector UInt8 4) :=
  match splitAt '.' s with
  | [a, b, c, d] => do return #v[← readOctet a, ← readOctet b, ← readOctet c, ← readOctet d]
  | _ => none

/-- The value of a hexadecimal digit. -/
def hexValue? (c : Char) : Option Nat :=
  if c.isDigit then some (digitValue c)
  else if 'a' ≤ c && c ≤ 'f' then some (c.toNat - 'a'.toNat + 10)
  else if 'A' ≤ c && c ≤ 'F' then some (c.toNat - 'A'.toNat + 10)
  else none

/-- A group: up to four hexadecimal digits. -/
def readGroup (s : List Char) : Option UInt16 :=
  if s.isEmpty || 4 < s.length then none
  else (s.foldlM (fun n c => (hexValue? c).map (n * 16 + ·)) 0).map Nat.toUInt16

/-- Two groups that hold an IPv4 address. -/
def groupsOfV4 (o : Vector UInt8 4) : List UInt16 :=
  let join (a b : UInt8) : UInt16 := a.toUInt16 <<< 8 ||| b.toUInt16
  [join o[0] o[1], join o[2] o[3]]

/-- The groups of a part of an address. The last may be written as an IPv4 address, which is two. -/
def readGroups (allowV4 : Bool) : List (List Char) → Option (List UInt16)
  | [] => some []
  | [last] =>
    if allowV4 && '.' ∈ last then (readV4 last).map groupsOfV4 else (readGroup last).map ([·])
  | s :: rest => do return (← readGroup s) :: (← readGroups allowV4 rest)

/-- The part of an address on one side of two colons. -/
def readSide (allowV4 : Bool) (s : List Char) : Option (List UInt16) :=
  if s.isEmpty then some [] else readGroups allowV4 (splitAt ':' s)

def ofGroups? (groups : List UInt16) : Option (Vector UInt16 8) :=
  if h : groups.length = 8 then some ⟨groups.toArray, by simpa using h⟩ else none

/-- Eight groups, or fewer around two colons that stand for the zero groups missing. -/
def readV6 (s : List Char) : Option (Vector UInt16 8) :=
  match pieces [':', ':'] s with
  | [whole] => if whole.isEmpty then none else (readGroups true (splitAt ':' whole)).bind ofGroups?
  | [before, after] => do
    let front ← readSide false before
    let back ← readSide true after
    if front.length + back.length < 8 then
      ofGroups? (front ++ List.replicate (8 - front.length - back.length) 0 ++ back)
    else none
  | _ => none

/-- Reads an address. -/
def ofChars? (s : List Char) : Option Address :=
  match readV4 s with
  | some octets => some (v4 octets)
  | none => (readV6 s).map v6

def ofText? (s : String) : Option Address :=
  ofChars? s.toList

/-- Whether this is an IPv4 address. -/
def isV4 : Address → Bool
  | v4 _ => true
  | v6 _ => false

end Address

end Lookout
