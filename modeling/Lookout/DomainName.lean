import Lookout.DomainName.Direction
import Lookout.DomainName.Joiner
import Lookout.DomainName.Mapping
import Lookout.DomainName.Punycode
import Lookout.Payload

/-!
# Domain names

A domain name in Unicode is mapped character by character, composed, cut into labels at its full
stops, and each label that is not ASCII is written in Punycode after `xn--`. A label that comes in
Punycode must be the writing of a label that all this would leave as it is.
-/

namespace Lookout.DomainName
set_option autoImplicit false
open Text

/-- Characters that no domain name holds when it is written in ASCII. -/
def isForbidden (c : Char) : Bool :=
  c.toNat ≤ 0x20 || c.toNat == 0x7F || "#/:<>?@[\\]^|%".toList.contains c

def isAscii (c : Char) : Bool :=
  c.toNat < 0x80

/-- What marks a label as Punycode. -/
def punycodeMark : List Char := "xn--".toList

/-- Whether a label that is not ASCII is in its final form: mapping and composing leave it as it is, it
does not begin with a mark, and its joiners stand where they may. -/
def isFinal (label : List Char) : Bool :=
  (label.mapM mapChar).map List.flatten == some label && composed label == label &&
    !(label.head?.any isMark) && joinersFit [] label

/-- The characters of a label, which may come in Punycode. -/
def unicodeLabel? (label : List Char) : Option (List Char) :=
  match punycodeMark.isPrefixOf? label with
  | some code =>
    match ofPunycode? code with
    | some decoded =>
      if label.all isAscii && !decoded.all isAscii && isFinal decoded && punycode decoded == code then some decoded
      else none
    | none => none
  | none => if label.all isAscii || isFinal label then some label else none

/-- A label in ASCII. -/
def asciiLabel (label : List Char) : List Char :=
  if label.all isAscii then label else punycodeMark ++ punycode label

/-- Whether labels may stand in one domain name: if any of them runs from right to left, each keeps to
one direction. -/
def directionsAgree (labels : List (List Char)) : Bool :=
  !(labels.any fun label => label.any isRightToLeft) || labels.all keepsDirection

/-- The ASCII form of a domain name. -/
def toAscii? (name : List Char) : Option (List Char) := do
  let mapped ← name.mapM mapChar
  let labels ← (splitAt '.' (composed mapped.flatten)).mapM unicodeLabel?
  let joined := List.intercalate ['.'] (labels.map asciiLabel)
  if directionsAgree labels && !joined.any isForbidden then some joined else none

/-- The ASCII form of a domain name given in UTF-8. -/
def ofBytes? (p : Payload) : Option (List Char) :=
  (Payload.text? p).bind fun s => toAscii? s.toList

end Lookout.DomainName
