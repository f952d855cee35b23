import Lookout.Payload

/-!
# JSON as it is written

The grammar of JSON over bytes. A string is kept piece by piece and a number digit by digit: whether
they stand for a text or fit a type is decided only where their value is asked for. Names may repeat in
an object and keep their order.

Strings and objects of strings are written too. A string is written byte by byte. Only the quote, the
backslash and control characters are escaped, the latter by the short escape if they have one.
-/

namespace Lookout.Json
set_option autoImplicit false
open Payload

/-- One piece of a string between its quotes. -/
inductive Piece where
  /-- A byte, written as itself or as a short escape. -/
  | byte (b : UInt8)
  /-- A UTF-16 code unit, written as `\u` and four hexadecimal digits. -/
  | codeUnit (u : Nat)
deriving DecidableEq

/-- A number: its sign, and the digits before the point, after it, and of the exponent. -/
structure Numeral where
  negative : Bool
  whole : List Nat
  fraction : List Nat
  /-- Whether the exponent is negative, and its digits; none if none is written. -/
  exponent : Option (Bool × List Nat)
deriving DecidableEq

/-- A JSON text. -/
inductive Raw where
  | null
  | bool (b : Bool)
  | number (n : Numeral)
  | string (s : List Piece)
  | array (items : List Raw)
  | object (members : List (List Piece × Raw))

/-- Bytes that separate the parts of a JSON text: space, tab, line feed and carriage return. -/
def isSpace (b : UInt8) : Bool :=
  b == 0x20 || b == 0x09 || b == 0x0A || b == 0x0D

def skipSpace (s : Payload) : Payload :=
  s.dropWhile isSpace

def isDigit (b : UInt8) : Bool :=
  ascii '0' ≤ b && b ≤ ascii '9'

/-- The value of a digit. -/
def digit (b : UInt8) : Nat :=
  (b - ascii '0').toNat

/-- The value of a hexadecimal digit. -/
def hexDigit? (b : UInt8) : Option Nat :=
  if isDigit b then some (digit b)
  else if ascii 'a' ≤ b && b ≤ ascii 'f' then some ((b - ascii 'a').toNat + 10)
  else if ascii 'A' ≤ b && b ≤ ascii 'F' then some ((b - ascii 'A').toNat + 10)
  else none

/-- The byte that a backslash and this letter stand for. -/
def shortEscape? (b : UInt8) : Option UInt8 :=
  if b = ascii '"' then some (ascii '"')
  else if b = ascii '\\' then some (ascii '\\')
  else if b = ascii '/' then some (ascii '/')
  else if b = ascii 'b' then some 0x08
  else if b = ascii 'f' then some 0x0C
  else if b = ascii 'n' then some 0x0A
  else if b = ascii 'r' then some 0x0D
  else if b = ascii 't' then some 0x09
  else none

/-- The code unit that four hexadecimal digits stand for. -/
def codeUnit? (a b c d : UInt8) : Option Nat := do
  return ((← hexDigit? a) * 16 + (← hexDigit? b)) * 256 + (← hexDigit? c) * 16 + (← hexDigit? d)

/-- Where the reading of a string stands. -/
inductive StringState where
  | plain
  /-- After a backslash. -/
  | escape
  /-- After `\u` and some of its four digits. -/
  | unicode (digits : List UInt8)

/-- Reads a string after its opening quote: its pieces, and what follows the closing quote. Control
characters must be escaped. -/
def readString : StringState → Payload → Option (List Piece × Payload)
  | _, [] => none
  | .plain, b :: r =>
    if b = ascii '"' then some ([], r)
    else if b = ascii '\\' then readString .escape r
    else if b < 0x20 then none
    else (readString .plain r).map fun p => (.byte b :: p.1, p.2)
  | .escape, b :: r =>
    if b = ascii 'u' then readString (.unicode []) r
    else
      match shortEscape? b with
      | some e => (readString .plain r).map fun p => (.byte e :: p.1, p.2)
      | none => none
  | .unicode [x, y, z], b :: r =>
    match codeUnit? x y z b with
    | some u => (readString .plain r).map fun p => (.codeUnit u :: p.1, p.2)
    | none => none
  | .unicode ds, b :: r => readString (.unicode (ds ++ [b])) r

/-- The digits that a text begins with, and the rest. -/
def readDigits (s : Payload) : List Nat × Payload :=
  ((s.takeWhile isDigit).map digit, s.dropWhile isDigit)

/-- Digits, at least one. -/
def readDigits1 (s : Payload) : Option (List Nat × Payload) :=
  match readDigits s with
  | ([], _) => none
  | r => some r

/-- The whole part: a zero alone, or digits that do not begin with zero. -/
def readWhole (s : Payload) : Option (List Nat × Payload) :=
  match readDigits s with
  | ([], _) => none
  | (0 :: _ :: _, _) => none
  | r => some r

/-- The fraction, if a point follows. -/
def readFraction (s : Payload) : Option (List Nat × Payload) :=
  match s with
  | b :: r => if b = ascii '.' then readDigits1 r else some ([], s)
  | [] => some ([], s)

/-- The exponent, if one follows. -/
def readExponent (s : Payload) : Option (Option (Bool × List Nat) × Payload) :=
  match s with
  | b :: r =>
    if b = ascii 'e' || b = ascii 'E' then
      match r with
      | c :: t =>
        if c = ascii '-' then (readDigits1 t).map fun p => (some (true, p.1), p.2)
        else if c = ascii '+' then (readDigits1 t).map fun p => (some (false, p.1), p.2)
        else (readDigits1 r).map fun p => (some (false, p.1), p.2)
      | [] => none
    else some (none, s)
  | [] => some (none, s)

/-- A number after its sign. -/
def readNumeral (negative : Bool) (s : Payload) : Option (Numeral × Payload) := do
  let (whole, s) ← readWhole s
  let (fraction, s) ← readFraction s
  let (exponent, s) ← readExponent s
  return (⟨negative, whole, fraction, exponent⟩, s)

/-- What follows the word `w` at the head of `s`. -/
def afterWord (w : String) (s : Payload) : Option Payload :=
  (ofText w).isPrefixOf? s

mutual

/-- Reads one value, blanks before it included. `fuel` bounds the number of steps. -/
def readValue (fuel : Nat) (s : Payload) : Option (Raw × Payload) :=
  match fuel with
  | 0 => none
  | fuel + 1 =>
    match skipSpace s with
    | [] => none
    | b :: r =>
      if b = ascii '"' then (readString .plain r).map fun p => (.string p.1, p.2)
      else if b = ascii '\x7b' then
        match skipSpace r with
        | [] => none
        | c :: t => if c = ascii '\x7d' then some (.object [], t) else
          (readMembers fuel r).map fun p => (.object p.1, p.2)
      else if b = ascii '[' then
        match skipSpace r with
        | [] => none
        | c :: t => if c = ascii ']' then some (.array [], t) else
          (readItems fuel r).map fun p => (.array p.1, p.2)
      else if b = ascii '-' then (readNumeral true r).map fun p => (.number p.1, p.2)
      else if isDigit b then (readNumeral false (b :: r)).map fun p => (.number p.1, p.2)
      else if b = ascii 'n' then (afterWord "ull" r).map fun t => (.null, t)
      else if b = ascii 't' then (afterWord "rue" r).map fun t => (.bool true, t)
      else if b = ascii 'f' then (afterWord "alse" r).map fun t => (.bool false, t)
      else none

/-- Reads the items of an array, at least one, and its closing bracket. -/
def readItems (fuel : Nat) (s : Payload) : Option (List Raw × Payload) :=
  match fuel with
  | 0 => none
  | fuel + 1 =>
    match readValue fuel s with
    | none => none
    | some (v, s) =>
      match skipSpace s with
      | [] => none
      | b :: r =>
        if b = ascii ']' then some ([v], r)
        else if b = ascii ',' then (readItems fuel r).map fun p => (v :: p.1, p.2)
        else none

/-- Reads the members of an object, at least one, and its closing brace. -/
def readMembers (fuel : Nat) (s : Payload) : Option (List (List Piece × Raw) × Payload) :=
  match fuel with
  | 0 => none
  | fuel + 1 =>
    match skipSpace s with
    | [] => none
    | q :: s =>
      if q = ascii '"' then
        match readString .plain s with
        | none => none
        | some (name, s) =>
          match skipSpace s with
          | [] => none
          | c :: s =>
            if c = ascii ':' then
              match readValue fuel s with
              | none => none
              | some (v, s) =>
                match skipSpace s with
                | [] => none
                | b :: r =>
                  if b = ascii '\x7d' then some ([(name, v)], r)
                  else if b = ascii ',' then (readMembers fuel r).map fun p => ((name, v) :: p.1, p.2)
                  else none
            else none
      else none

end

/-- The JSON text that a payload is, blanks around it allowed; none if it is no JSON text. Every two
steps consume a byte, so the bound never ends a reading. -/
def Raw.ofPayload? (p : Payload) : Option Raw :=
  match readValue (2 * p.length + 1) p with
  | some (v, rest) => if (skipSpace rest).isEmpty then some v else none
  | none => none

/-- The lower case hexadecimal digit of a number below 16. -/
def hexDigit (n : Nat) : UInt8 :=
  if n < 10 then ascii '0' + n.toUInt8 else ascii 'a' + (n - 10).toUInt8

/-- How one byte of a string is written. -/
def escapeByte (b : UInt8) : Payload :=
  if b = ascii '"' then ofText "\\\""
  else if b = ascii '\\' then ofText "\\\\"
  else if b = 0x08 then ofText "\\b"
  else if b = 0x09 then ofText "\\t"
  else if b = 0x0A then ofText "\\n"
  else if b = 0x0C then ofText "\\f"
  else if b = 0x0D then ofText "\\r"
  else if b < 0x20 then ofText "\\u00" ++ [hexDigit (b.toNat / 16), hexDigit (b.toNat % 16)]
  else [b]

/-- A string in writing, between its quotes. -/
def writeString (s : String) : Payload :=
  ascii '"' :: (ofText s).flatMap escapeByte ++ [ascii '"']

/-- An object in writing whose members all are strings. -/
def writeStrings (members : List (String × String)) : Payload :=
  ascii '\x7b' ::
    List.intercalate [ascii ','] (members.map fun m => writeString m.1 ++ ascii ':' :: writeString m.2)
    ++ [ascii '\x7d']

end Lookout.Json
