import Lookout.Decimal.Shortest
import Lookout.Json.Raw
import Lookout.Text.Numeral

/-!
# JSON numbers

A number written without fraction and exponent is a whole number as far as 64 bits carry it; every
other number is a 64-bit floating point number. The text of a number depends on its value alone.
-/

namespace Lookout.Json
set_option autoImplicit false
open Text

/-- The value of a number. -/
inductive Number where
  /-- From 0 to 2 ^ 64 - 1. -/
  | nat (n : Nat)
  /-- From -2 ^ 63 to -1. -/
  | negative (n : Nat)
  | float (x : Float)

/-- Whole digits as far as they fit 64 bits: their value, and how many are left over. -/
def takeDigits : Nat → List Nat → Nat × List Nat
  | value, [] => (value, [])
  | value, d :: r => if value * 10 + d ≤ maxWord64 then takeDigits (value * 10 + d) r else (value, d :: r)

/-- The digits of an exponent as a number of 31 bits; none beyond it. -/
def exponentValue? : Nat → List Nat → Option Nat
  | value, [] => some value
  | value, d :: r => if value * 10 + d < 0x80000000 then exponentValue? (value * 10 + d) r else none

/-- The largest power of ten that is a floating point number. -/
def maxPower : Nat := 308

def powerOfTen (n : Nat) : Float :=
  Float.ofScientific 1 false n

/-- `x * 10 ^ e` by one multiplication or division for each 308 places; none if it grows past the
largest number. -/
def scale? (x : Float) (e : Int) : Option Float :=
  if e.natAbs ≤ maxPower then
    if 0 ≤ e then
      let y := x * powerOfTen e.natAbs
      if y.isInf then none else some y
    else some (x / powerOfTen e.natAbs)
  else if x == 0.0 then some x
  else if 0 ≤ e then none
  else scale? (x / powerOfTen maxPower) (e + maxPower)
termination_by e.natAbs
decreasing_by simp only [maxPower] at *; omega

/-- The floating point number of a numeral: the digits that fit 64 bits, scaled by a power of ten. -/
def floatValue? (n : Numeral) : Option Float := do
  let (significand, wholeLeft) := takeDigits 0 n.whole
  let (significand, fractionLeft) := takeDigits significand n.fraction
  let places : Int := wholeLeft.length - (n.fraction.length - fractionLeft.length : Nat)
  let signed (x : Float) : Float := if n.negative then -x else x
  let scaled (e : Int) := (scale? significand.toUInt64.toFloat e).map signed
  match n.exponent with
  | none => scaled places
  | some (negative, ds) =>
    match exponentValue? 0 ds with
    | some e =>
      let e : Int := if negative then places - e else places + e
      scaled (max (-0x80000000) (min 0x7FFFFFFF e))
    | none => if significand = 0 || negative then some (signed 0.0) else none

/-- The value of a numeral; none if it is past the largest floating point number. A zero with a minus
sign is a floating point number. -/
def Number.ofNumeral? (n : Numeral) : Option Number :=
  if n.fraction.isEmpty && n.exponent.isNone then
    match takeDigits 0 n.whole with
    | (value, []) =>
      if !n.negative then some (.nat value)
      else if value != 0 && value ≤ maxInt64 + 1 then some (.negative value)
      else some (.float (-value.toUInt64.toFloat))
    | _ => (floatValue? n).map .float
  else (floatValue? n).map .float

/-- The digits of a decimal with a point: positional from 10^-5 up to 10^16, else with an
exponent that shows its sign. -/
def decimalText (d : Decimal.Scaled) : String :=
  let digits := toString d.digits
  let count := digits.length
  let point : Int := count + d.exponent
  let zeros (n : Int) : String := String.ofList (List.replicate n.toNat '0')
  let cut (n : Nat) (mark : String) : String :=
    String.ofList (digits.toList.take n) ++ mark ++ String.ofList (digits.toList.drop n)
  if 0 ≤ d.exponent && point ≤ 16 then digits ++ zeros d.exponent ++ ".0"
  else if 0 < point && point ≤ 16 then cut point.toNat "."
  else if -5 < point && point ≤ 0 then "0." ++ zeros (-point) ++ digits
  else
    let exponent := (if 0 < point then "e+" else "e") ++ toString (point - 1)
    (if count = 1 then digits else cut 1 ".") ++ exponent

/-- The shortest decimal that reads back as a positive finite number. -/
def shortestDecimal (x : Float) : Decimal.Scaled :=
  let bits := x.toBits.toNat
  let fraction : Nat := bits % Nat.pow 2 52
  let biased : Nat := bits / Nat.pow 2 52 % Nat.pow 2 11
  let interval :=
    if biased = 0 then Decimal.Interval.ofBinary fraction (-1074) false
    else .ofBinary (Nat.pow 2 52 + fraction) ((biased : Int) - 1075) (fraction == 0 && 1 < biased)
  interval.shortest

def floatText (x : Float) : String :=
  let negative := x.toBits.toNat / Nat.pow 2 63 == 1
  let size := if negative then -x else x
  (if negative then "-" else "") ++ (if size == 0.0 then "0.0" else decimalText (shortestDecimal size))

/-- The number in writing. -/
def Number.text : Number → String
  | .nat n => toString n
  | .negative n => "-" ++ toString n
  | .float x => floatText x

end Lookout.Json
