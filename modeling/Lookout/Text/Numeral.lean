/-!
# Decimal numerals

Reading whole numbers of a bounded range. Digits are ASCII digits, leading zeros are allowed and so is
a plus sign. The first place from the left at which a numeral goes wrong decides the error.
-/

namespace Lookout.Text
set_option autoImplicit false

/-- Why a text is no numeral of a given range. -/
inductive NumeralError where
  | empty
  | invalidDigit
  | tooLarge
  | tooSmall
deriving DecidableEq, Repr

namespace NumeralError

def message : NumeralError → String
  | empty => "cannot parse integer from empty string"
  | invalidDigit => "invalid digit found in string"
  | tooLarge => "number too large to fit in target type"
  | tooSmall => "number too small to fit in target type"

end NumeralError

/-- The value of an ASCII digit. -/
def digitValue (c : Char) : Nat :=
  c.toNat - '0'.toNat

/-- Continues a numeral of value `value` with digits, as long as it is at most `limit`; beyond it the
error is `excess`. -/
def readDigits (limit : Nat) (excess : NumeralError) : Nat → List Char → Except NumeralError Nat
  | value, [] => .ok value
  | value, c :: r =>
    if c.isDigit then
      let next := value * 10 + digitValue c
      if next ≤ limit then readDigits limit excess next r else .error excess
    else .error .invalidDigit

/-- Digits, at least one. -/
def readMagnitude (limit : Nat) (excess : NumeralError) : List Char → Except NumeralError Nat
  | [] => .error .invalidDigit
  | s => readDigits limit excess 0 s

/-- A number from 0 to `limit`, with or without a plus sign. -/
def readNat (limit : Nat) : List Char → Except NumeralError Nat
  | [] => .error .empty
  | '+' :: r => readMagnitude limit .tooLarge r
  | s => readMagnitude limit .tooLarge s

/-- A number from `-(limit + 1)` to `limit`, with or without a sign. -/
def readInt (limit : Nat) : List Char → Except NumeralError Int
  | [] => .error .empty
  | '+' :: r => (readMagnitude limit .tooLarge r).map Int.ofNat
  | '-' :: r => (readMagnitude (limit + 1) .tooSmall r).map fun n => -(n : Int)
  | s => (readMagnitude limit .tooLarge s).map Int.ofNat

/-- The largest number of 16 bits. -/
def maxWord16 : Nat := 0xFFFF
/-- The largest number of 32 bits. -/
def maxWord32 : Nat := 0xFFFFFFFF
/-- The largest number of 64 bits. -/
def maxWord64 : Nat := 0xFFFFFFFFFFFFFFFF
/-- The largest number of 64 bits with a sign. -/
def maxInt64 : Nat := 0x7FFFFFFFFFFFFFFF

end Lookout.Text
