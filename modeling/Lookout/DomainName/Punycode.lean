/-!
# Punycode

The encoding of a label of any characters in ASCII letters and digits: its ASCII characters, a hyphen,
and the other characters as variable-length numbers that tell where each is to be inserted.
-/

namespace Lookout.DomainName
set_option autoImplicit false

def base : Nat := 36
def thresholdMin : Nat := 1
def thresholdMax : Nat := 26
def firstCodePoint : Nat := 128

/-- How large a digit must be to end a number, at the place `k` of it. -/
def threshold (k bias : Nat) : Nat :=
  max thresholdMin (min thresholdMax (k - bias))

theorem one_le_threshold (k bias : Nat) : 1 ≤ threshold k bias :=
  Nat.le_max_left ..

/-- Divides a delta until it is small, and counts the places in steps of the base. -/
def divideDown (delta k : Nat) : Nat × Nat :=
  if (base - thresholdMin) * thresholdMax / 2 < delta then
    divideDown (delta / (base - thresholdMin)) (k + base)
  else (delta, k)
termination_by delta
decreasing_by exact Nat.div_lt_self (by omega) (by decide)

/-- The bias after one insertion. -/
def adapt (delta count : Nat) (first : Bool) : Nat :=
  let delta := if first then delta / 700 else delta / 2
  let (delta, k) := divideDown (delta + delta / count) 0
  k + (base - thresholdMin + 1) * delta / (delta + 38)

/-- The digit of a value below 36: a letter, then `0` to `9`. -/
def digitChar (n : Nat) : Char :=
  if n < 26 then Char.ofNat ('a'.toNat + n) else Char.ofNat ('0'.toNat + (n - 26))

def digitValue? (c : Char) : Option Nat :=
  if c.isDigit then some (c.toNat - '0'.toNat + 26)
  else if c.isLower then some (c.toNat - 'a'.toNat)
  else if c.isUpper then some (c.toNat - 'A'.toNat)
  else none

/-- A number as digits, from the place `k` on. -/
def encodeNumber (q k bias : Nat) : List Char :=
  let t := threshold k bias
  if q < t then [digitChar q]
  else digitChar (t + (q - t) % (base - t)) :: encodeNumber ((q - t) / (base - t)) (k + base) bias
termination_by q
decreasing_by
  have := one_le_threshold k bias
  exact Nat.lt_of_le_of_lt (Nat.div_le_self ..) (by omega)

/-- Where an encoding stands: the delta so far, the bias, how many characters are handled, and what is
written. -/
structure Encoding where
  delta : Nat
  bias : Nat
  handled : Nat
  output : List Char

/-- Handles the characters with the code point `n`. -/
def encodePoint (n basic : Nat) (label : List Nat) (e : Encoding) : Encoding :=
  label.foldl
    (fun e c =>
      if c < n then { e with delta := e.delta + 1 }
      else if c = n then
        { delta := 0, bias := adapt e.delta (e.handled + 1) (e.handled == basic),
          handled := e.handled + 1, output := e.output ++ encodeNumber e.delta base e.bias }
      else e)
    e

/-- Handles the characters with each of some code points in turn, of which none is below `n`. -/
def encodePoints (basic : Nat) (label : List Nat) : (points : List Nat) → (n : Nat) → Encoding → Encoding
  | [], _, e => e
  | m :: rest, n, e =>
    let e := encodePoint m basic label { e with delta := e.delta + (m - n) * (e.handled + 1) }
    encodePoints basic label rest (m + 1) { e with delta := e.delta + 1 }

/-- The Punycode of a label. -/
def punycode (label : List Char) : List Char :=
  let points := label.map Char.toNat
  let ascii := label.filter (·.toNat < firstCodePoint)
  let others := (points.filter (firstCodePoint ≤ ·)).mergeSort.eraseDups
  let start := if ascii.isEmpty then [] else ascii ++ ['-']
  (encodePoints ascii.length points others firstCodePoint ⟨0, 72, ascii.length, start⟩).output

/-- Reads one number at the place `k`, added to `i`; `w` is the weight of the place. -/
def decodeNumber : List Char → Nat → Nat → Nat → Nat → Option (Nat × List Char)
  | [], _, _, _, _ => none
  | c :: r, i, w, k, bias =>
    match digitValue? c with
    | none => none
    | some d =>
      let t := threshold k bias
      if d < t then some (i + d * w, r) else decodeNumber r (i + d * w) (w * (base - t)) (k + base) bias

theorem length_lt_of_decodeNumber {s rest : List Char} {i w k bias j : Nat}
    (h : decodeNumber s i w k bias = some (j, rest)) : rest.length < s.length := by
  fun_induction decodeNumber s i w k bias with
  | case1 => cases h
  | case2 => cases h
  | case3 => cases h; simp
  | case4 _ _ _ _ _ _ _ _ _ _ ih => exact Nat.lt_succ_of_lt (ih h)

/-- Reads numbers and inserts a character for each. -/
def decodeFrom (s : List Char) (n i bias : Nat) (out : List Char) : Option (List Char) :=
  if s.isEmpty then some out
  else
    match h : decodeNumber s i 1 base bias with
    | none => none
    | some (j, rest) =>
      let count := out.length + 1
      let point := n + j / count
      let place := j % count
      if point.isValidChar then
        have := length_lt_of_decodeNumber h
        let out := out.take place ++ [Char.ofNat point] ++ out.drop place
        decodeFrom rest point (place + 1) (adapt (j - i) count (i == 0 && n == firstCodePoint)) out
      else none
termination_by s.length

/-- The label that a Punycode stands for. -/
def ofPunycode? (s : List Char) : Option (List Char) :=
  let reversed := s.reverse
  let tail := (reversed.takeWhile (· != '-')).reverse
  let ascii := ((reversed.dropWhile (· != '-')).drop 1).reverse
  if ascii.all (·.toNat < firstCodePoint) then
    decodeFrom tail firstCodePoint 0 72 ascii
  else none

end Lookout.DomainName
