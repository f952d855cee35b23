import Lookout.Text.Numeral
import Lookout.Toml.Value
import Lookout.Url.Percent

/-!
# TOML numbers and times

Numbers may be written with single underscores between digits. Whole numbers must fit 64 bits, and a
floating point number must not be too large to be one.
-/

namespace Lookout.Toml
set_option autoImplicit false
open Text

/-- Reads more digits of one kind, single underscores between them. -/
def readMoreDigits (isDigit : Char → Bool) : List Char → Option (List Char × List Char)
  | [] => some ([], [])
  | '_' :: c :: r => if isDigit c then (readMoreDigits isDigit r).map fun p => (c :: p.1, p.2) else none
  | c :: r =>
    if isDigit c then (readMoreDigits isDigit r).map fun p => (c :: p.1, p.2)
    else if c = '_' then none
    else some ([], c :: r)

/-- Reads digits of one kind, at least one. -/
def readDigitRun (isDigit : Char → Bool) : List Char → Option (List Char × List Char)
  | [] => none
  | c :: r => if isDigit c then (readMoreDigits isDigit r).map fun p => (c :: p.1, p.2) else none

/-- Reads the digits of a whole number: a zero alone, or digits that do not begin with zero. -/
def readWholeDigits : List Char → Option (List Char × List Char)
  | '0' :: r => some (['0'], r)
  | s => readDigitRun Char.isDigit s

/-- The number that digits write. -/
def numberOf (radix : Nat) (digits : List Char) : Nat :=
  digits.foldl (fun n c => n * radix + (Url.hexValue? c).getD 0) 0

/-- A whole number, as far as 64 bits carry it. -/
def integer? (negative : Bool) (n : Nat) : Option Value :=
  if negative then if n ≤ maxInt64 + 1 then some (.integer (-(n : Int))) else none
  else if n ≤ maxInt64 then some (.integer n) else none

/-- Digits of a radix, by its mark. -/
def radixOf? (mark : Char) : Option (Nat × (Char → Bool)) :=
  match mark with
  | 'x' => some (16, fun c => (Url.hexValue? c).isSome)
  | 'o' => some (8, fun c => c.isDigit && c < '8')
  | 'b' => some (2, fun c => c == '0' || c == '1')
  | _ => none

/-- The least number that is rounded to more than any floating point number. -/
def floatLimit : Nat := Nat.pow 2 1024 - Nat.pow 2 970

/-- Whether a number of these digits times ten to this power is too large for a floating point number. -/
def isTooLarge (digits : List Char) (power : Int) : Bool :=
  let digits := digits.dropWhile (· == '0')
  let places : Int := digits.length + power
  if digits.isEmpty || places < 300 then false
  else if places > 320 then true
  else if 0 ≤ power then floatLimit ≤ numberOf 10 digits * Nat.pow 10 power.toNat
  else floatLimit * Nat.pow 10 (-power).toNat ≤ numberOf 10 digits

/-- Reads an exponent after its letter. -/
def readExponent (s : List Char) : Option (Int × List Char) := do
  let (negative, s) := match s with
    | '-' :: r => (true, r)
    | '+' :: r => (false, r)
    | s => (false, s)
  let (digits, s) ← readDigitRun Char.isDigit s
  let n : Int := numberOf 10 digits
  return (if negative then -n else n, s)

/-- Reads the exponent that may follow the other digits of a floating point number. -/
def readFloatEnd (negative : Bool) (whole fraction : List Char) (s : List Char) :
    Option (Value × List Char) := do
  let (power, s) ← match s with
    | 'e' :: r => readExponent r
    | 'E' :: r => readExponent r
    | s => some (0, s)
  if !negative && isTooLarge (whole ++ fraction) (power - fraction.length) then none
  else return (.float, s)

/-- Reads a number after its sign. -/
def readUnsigned (negative : Bool) (s : List Char) : Option (Value × List Char) :=
  match s with
  | 'i' :: 'n' :: 'f' :: r => some (.float, r)
  | 'n' :: 'a' :: 'n' :: r => some (.float, r)
  | s => do
    let (whole, s) ← readWholeDigits s
    match s with
    | '.' :: r => do
      let (fraction, r) ← readDigitRun Char.isDigit r
      readFloatEnd negative whole fraction r
    | 'e' :: _ => readFloatEnd negative whole [] s
    | 'E' :: _ => readFloatEnd negative whole [] s
    | s => return (← integer? negative (numberOf 10 whole), s)

/-- Reads a number after a zero and the mark of a radix. -/
def readRadix (radix : Nat) (isDigit : Char → Bool) (s : List Char) : Option (Value × List Char) := do
  let (digits, s) ← readDigitRun isDigit s
  return (← integer? false (numberOf radix digits), s)

/-- Reads a number. -/
def readNumber (s : List Char) : Option (Value × List Char) :=
  match s with
  | '-' :: r => readUnsigned true r
  | '+' :: r => readUnsigned false r
  | '0' :: mark :: r =>
    match radixOf? mark with
    | some (radix, isDigit) => readRadix radix isDigit r
    | none => readUnsigned false s
  | s => readUnsigned false s

/-- Reads `count` digits that write a number from `low` to `high`. -/
def readField (count low high : Nat) (s : List Char) : Option (Nat × List Char) :=
  let digits := s.take count
  let n := numberOf 10 digits
  if digits.length = count && digits.all Char.isDigit && low ≤ n && n ≤ high then some (n, s.drop count)
  else none

/-- Reads one character. -/
def readMark (c : Char) : List Char → Option (List Char)
  | d :: r => if d = c then some r else none
  | [] => none

def isLeapYear (year : Nat) : Bool :=
  year % 4 == 0 && (year % 100 != 0 || year % 400 == 0)

def daysOfMonth (year month : Nat) : Nat :=
  if month = 2 then if isLeapYear year then 29 else 28
  else if [4, 6, 9, 11].contains month then 30
  else 31

/-- Reads a date: year, month and day. -/
def readDate (s : List Char) : Option (List Char) := do
  let (year, s) ← readField 4 0 9999 s
  let (month, s) ← readField 2 1 12 (← readMark '-' s)
  let (_, s) ← readField 2 1 (daysOfMonth year month) (← readMark '-' s)
  return s

/-- Reads a time of day: hours, minutes, seconds and a fraction of a second. -/
def readTimeOfDay (s : List Char) : Option (List Char) := do
  let (_, s) ← readField 2 0 23 s
  let (_, s) ← readField 2 0 59 (← readMark ':' s)
  let (_, s) ← readField 2 0 60 (← readMark ':' s)
  match s with
  | '.' :: d :: r => if d.isDigit then return r.dropWhile Char.isDigit else return s
  | s => return s

/-- Reads the offset of a time from universal time, if there is one. -/
def readOffset (s : List Char) : List Char :=
  match s with
  | c :: r =>
    if c = 'Z' || c = 'z' then r
    else if c = '+' || c = '-' then
      (do
        let (_, t) ← readField 2 0 23 r
        let (_, t) ← readField 2 0 59 (← readMark ':' t)
        return t : Option (List Char)).getD s
    else s
  | [] => []

/-- Reads a date, a time of day, or both. -/
def readTime (s : List Char) : Option (Value × List Char) :=
  match readDate s with
  | some (c :: r) =>
    if c = 'T' || c = 't' || c = ' ' then
      match readTimeOfDay r with
      | some r => some (.time, readOffset r)
      | none => some (.time, c :: r)
    else some (.time, c :: r)
  | some [] => some (.time, [])
  | none => (readTimeOfDay s).map (.time, ·)

end Lookout.Toml
