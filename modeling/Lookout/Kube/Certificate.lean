import Lookout.Payload
import Lookout.Text.Occurrence

/-!
# Certificates

A certificate is given as a text: a block of Base64 between two lines that name it. What the block holds
must be laid out as a certificate is, a sequence of a content, the kind of its signature and the signature.
-/

namespace Lookout.Kube.Certificate
set_option autoImplicit false
open Text

/-- The names of blocks that hold a certificate. -/
def blockNames : List String :=
  ["CERTIFICATE", "X509 CERTIFICATE", "TRUSTED CERTIFICATE"]

/-- A line without the blanks and control characters at its end. -/
def lineOf (line : List Char) : List Char :=
  (line.reverse.dropWhile (· ≤ ' ')).reverse

/-- The lines after the first one that begins a block of a certificate, and the line that ends it. -/
def blockAfter? : List (List Char) → Option (List Char × List (List Char))
  | [] => none
  | line :: rest =>
    match blockNames.find? fun name => line = ("-----BEGIN " ++ name ++ "-----").toList with
    | some name => some (("-----END " ++ name ++ "-----").toList, rest)
    | none => blockAfter? rest

/-- What the first block of a certificate in a text holds. -/
def block? (text : List Char) : Option Payload := do
  let (last, lines) ← blockAfter? ((splitAt '\n' text).map lineOf)
  if lines.contains last then Base64.decode? (lines.takeWhile (· != last)).flatten else none

/-- The number that some bytes write in base 256, the highest first. -/
def bigEndian (bytes : Payload) : Nat :=
  bytes.foldl (fun n b => n * 256 + b.toNat) 0

/-- The length of an element and the bytes after it. A length of 128 or more is written by the number of
its bytes and then these. -/
def lengthOf : Payload → Option (Nat × Payload)
  | [] => none
  | b :: r =>
    if b < 0x80 then some (b.toNat, r)
    else
      let count := b.toNat - 0x80
      if 0 < count && count ≤ r.length then some (bigEndian (r.take count), r.drop count) else none

/-- The content of the first element, which must have the tag `tag`, and what follows it. -/
def element? (tag : UInt8) : Payload → Option (Payload × Payload)
  | [] => none
  | b :: r => do
    let (length, content) ← lengthOf r
    if b = tag && length ≤ content.length then some (content.take length, content.drop length) else none

def sequenceTag : UInt8 := 0x30
def bitStringTag : UInt8 := 0x03

/-- Whether a block is laid out as a certificate is. -/
def isLaidOut (block : Payload) : Bool :=
  (do
    let (whole, _) ← element? sequenceTag block
    let (_, rest) ← element? sequenceTag whole
    let (_, rest) ← element? sequenceTag rest
    let (_, rest) ← element? bitStringTag rest
    if rest.isEmpty then some () else none : Option Unit).isSome

/-- Whether a payload is a certificate. -/
def isCertificate (p : Payload) : Bool :=
  ((p.map fun b => Char.ofNat b.toNat) |> block?).any isLaidOut

end Lookout.Kube.Certificate
