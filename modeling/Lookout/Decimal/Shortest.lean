/-!
# The fewest digits that read back

A finite positive binary fraction `m * 2 ^ q` stands for the interval of numbers that are rounded to
it. The shortest decimal in that interval is written with the fewest digits; of several with as few,
the nearest is taken. All arithmetic is exact.
-/

namespace Lookout.Decimal
set_option autoImplicit false

/-- A positive number `num / den`. -/
structure Ratio where
  num : Nat
  den : Nat

/-- `n * 2 ^ q` as a ratio. -/
def Ratio.ofBinary (n : Nat) (q : Int) : Ratio :=
  if 0 ≤ q then ⟨n * Nat.pow 2 q.toNat, 1⟩ else ⟨n, Nat.pow 2 (-q).toNat⟩

/-- The numbers that are rounded to one binary fraction. -/
structure Interval where
  low : Ratio
  value : Ratio
  high : Ratio
  /-- Whether the ends belong to it. -/
  closed : Bool

/-- The interval of `m * 2 ^ q`. Its lower half is narrower where `m` is the least of its binade. -/
def Interval.ofBinary (m : Nat) (q : Int) (leastOfBinade : Bool) : Interval where
  low := .ofBinary (if leastOfBinade then 4 * m - 1 else 4 * m - 2) (q - 2)
  value := .ofBinary (4 * m) (q - 2)
  high := .ofBinary (4 * m + 2) (q - 2)
  closed := m % 2 == 0

/-- A decimal `digits * 10 ^ exponent`. -/
structure Scaled where
  digits : Nat
  exponent : Int
deriving DecidableEq

def Scaled.ratio (d : Scaled) : Ratio :=
  if 0 ≤ d.exponent then ⟨d.digits * Nat.pow 10 d.exponent.toNat, 1⟩ else ⟨d.digits, Nat.pow 10 (-d.exponent).toNat⟩

def Ratio.le (a b : Ratio) : Bool :=
  a.num * b.den ≤ b.num * a.den

def Ratio.lt (a b : Ratio) : Bool :=
  a.num * b.den < b.num * a.den

/-- The distance between two ratios. -/
def Ratio.distance (a b : Ratio) : Ratio :=
  let x := a.num * b.den
  let y := b.num * a.den
  ⟨if x ≤ y then y - x else x - y, a.den * b.den⟩

def Interval.contains (i : Interval) (r : Ratio) : Bool :=
  if i.closed then i.low.le r && r.le i.high else i.low.lt r && r.lt i.high

/-- The multiple of `10 ^ e` at or below the value. -/
def Interval.floor (i : Interval) (e : Int) : Nat :=
  if 0 ≤ e then i.value.num / (i.value.den * Nat.pow 10 e.toNat)
  else i.value.num * Nat.pow 10 (-e).toNat / i.value.den

/-- The multiple of `10 ^ e` in the interval that is nearest to the value. -/
def Interval.onGrid? (i : Interval) (e : Int) : Option Scaled :=
  let below : Scaled := ⟨i.floor e, e⟩
  let above : Scaled := ⟨i.floor e + 1, e⟩
  match below.digits != 0 && i.contains below.ratio, i.contains above.ratio with
  | true, true =>
    if (below.ratio.distance i.value).le (above.ratio.distance i.value) then some below else some above
  | true, false => some below
  | false, true => some above
  | false, false => none

/-- The first of the grids `10 ^ e`, `10 ^ (e - 1)`, … with a point in the interval. -/
def Interval.shortestFrom (i : Interval) : Nat → Int → Option Scaled
  | 0, _ => none
  | n + 1, e =>
    match i.onGrid? e with
    | some d => some d
    | none => i.shortestFrom n (e - 1)

/-- The shortest decimal of the interval. Seventeen digits always suffice for 64-bit floating point,
whose numbers lie between `10 ^ -324` and `10 ^ 309`. -/
def Interval.shortest (i : Interval) : Scaled :=
  (i.shortestFrom 660 310).getD ⟨0, 0⟩

end Lookout.Decimal
