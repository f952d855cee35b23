import Lookout.Address
import Lookout.DomainName
import Lookout.Url.Percent

/-!
# Hosts of URLs

A host is an IP address or a name. The host of a special URL is a domain name, and one whose last part
is a number is an IPv4 address; every other URL has its host percent encoded as it is.
-/

namespace Lookout.Url
set_option autoImplicit false
open Text

/-- Why a text is no URL. -/
inductive UrlError where
  | emptyHost
  | invalidDomainName
  | invalidPort
  | invalidIpv4
  | invalidIpv6
  | invalidDomainCharacter
  | relativeWithoutBase
deriving DecidableEq

namespace UrlError

def message : UrlError → String
  | emptyHost => "empty host"
  | invalidDomainName => "invalid international domain name"
  | invalidPort => "invalid port number"
  | invalidIpv4 => "invalid IPv4 address"
  | invalidIpv6 => "invalid IPv6 address"
  | invalidDomainCharacter => "invalid domain character"
  | relativeWithoutBase => "relative URL without a base"

end UrlError

/-- The host of a URL. An empty name is no host. -/
inductive Host where
  | name (text : List Char)
  | address (a : Address)
deriving DecidableEq

namespace Host

/-- The host as a URL writes it: an IPv6 address in brackets, by its groups alone. -/
def chars : Host → List Char
  | name text => text
  | address (.v4 octets) => Address.textV4 octets
  | address (.v6 groups) => ['['] ++ Address.textV6 groups.toList ++ [']']

/-- The host by itself. -/
def text : Host → String
  | name text => String.ofList text
  | address a => a.text

def isEmpty : Host → Bool
  | name text => text.isEmpty
  | address _ => false

/-- The value of digits of a base, all of which must be digits of it. -/
def readRadix (radix : Nat) (s : List Char) : Option Nat :=
  s.foldlM
    (fun n c =>
      match hexValue? c with
      | some d => if d < radix then some (n * radix + d) else none
      | none => none)
    0

/-- A part of an IPv4 address: decimal, or octal after a zero, or hexadecimal after `0x`. -/
def readV4Part : List Char → Option Nat
  | [] => none
  | '0' :: 'x' :: r => readRadix 16 r
  | '0' :: 'X' :: r => readRadix 16 r
  | '0' :: c :: r => readRadix 8 (c :: r)
  | s => readRadix 10 s

/-- The parts of a name, less an empty one at its end. -/
def nameParts (s : List Char) : List (List Char) :=
  let parts := splitAt '.' s
  if parts.getLast? == some [] then parts.dropLast else parts

/-- Whether the last part of a name is a number, so that the name must be an IPv4 address. -/
def endsInNumber (s : List Char) : Bool :=
  match (nameParts s).getLast? with
  | some last => (!last.isEmpty && last.all Char.isDigit) || (readV4Part last).isSome
  | none => false

/-- The address whose first octets are given, and whose last part fills the other octets. -/
def assembleV4 (first : List Nat) (last : Nat) : Option (Vector UInt8 4) :=
  if first.all (· ≤ 255) && first.length ≤ 3 && last < Nat.pow 256 (4 - first.length) then
    let n := (first.zipIdx.map fun p => p.1 * Nat.pow 256 (3 - p.2)).foldr (· + ·) 0 + last
    some #v[(n / Nat.pow 256 3).toUInt8, (n / Nat.pow 256 2).toUInt8, (n / 256).toUInt8, n.toUInt8]
  else none

def readV4 (s : List Char) : Option (Vector UInt8 4) := do
  let numbers ← (nameParts s).mapM readV4Part
  assembleV4 numbers.dropLast (← numbers.getLast?)

/-- An IPv6 address in brackets, given after the opening one. -/
def readBracketed (s : List Char) : Except UrlError Host :=
  match s.getLast? with
  | some ']' =>
    match Address.readV6 s.dropLast with
    | some groups => .ok (.address (.v6 groups))
    | none => .error .invalidIpv6
  | _ => .error .invalidIpv6

/-- The host of a special URL. -/
def ofDomain : List Char → Except UrlError Host
  | '[' :: r => readBracketed r
  | s =>
    match DomainName.ofBytes? (percentDecode s) with
    | none => .error .invalidDomainName
    | some [] => .error .emptyHost
    | some domain =>
      if endsInNumber domain then
        match readV4 domain with
        | some octets => .ok (.address (.v4 octets))
        | none => .error .invalidIpv4
      else .ok (.name domain)

/-- Characters that no host holds. -/
def isForbidden (c : Char) : Bool :=
  "\x00\t\n\r #/:<>?@[\\]^|".toList.contains c

/-- The host of a URL that is not special. -/
def ofOpaque : List Char → Except UrlError Host
  | '[' :: r => readBracketed r
  | s => if s.any isForbidden then .error .invalidDomainCharacter else .ok (.name (percentEncode controlSet s))

end Host

end Lookout.Url
