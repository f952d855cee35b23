import Lookout.Json.Number
import Lookout.Proofs.Text.Numerals
import Mathlib.Data.List.Basic

/-!
# Whole numbers read back

A whole number in decimal is read digit by digit as it was written. As far as numbers of 64 bits go, what is read
stands for the number itself, and its text is the decimal again.
-/

namespace Lookout
set_option autoImplicit false

namespace Payload

theorem ofText_ofList (cs : List Char) : ofText (String.ofList cs) = cs.flatMap String.utf8EncodeChar := by
  simp [ofText, List.utf8Encode]

theorem ofText_eq_flatMap (s : String) : ofText s = s.toList.flatMap String.utf8EncodeChar := by
  rw [← ofText_ofList, String.ofList_toList]

theorem ofText_append (s t : String) : ofText (s ++ t) = ofText s ++ ofText t := by
  simp [ofText, String.toByteArray_append]

/-- An ASCII character is one byte. -/
theorem utf8EncodeChar_ascii {c : Char} (small : c.toNat < 128) : String.utf8EncodeChar c = [ascii c] := by
  have one : c.utf8Size = 1 := by
    rw [Char.utf8Size_eq_one_iff, UInt32.le_iff_toNat_le]
    exact Nat.le_of_lt_succ small
  rw [String.utf8EncodeChar_eq_singleton one]
  rfl

end Payload

namespace Json
open Payload

/-- The byte of a digit is a digit of the same value. -/
theorem isDigit_ascii {c : Char} (numeric : c.isDigit = true) :
    isDigit (ascii c) = true ∧ digit (ascii c) = Text.digitValue c := by
  obtain ⟨low, high⟩ := Char.isDigit_iff_toNat.1 numeric
  have size : (ascii c).toNat = c.toNat := by
    have small : c.toNat < 256 := Nat.lt_of_le_of_lt high (by decide)
    simp [ascii, Nat.mod_eq_of_lt small]
  have above : ascii '0' ≤ ascii c := by
    rw [UInt8.le_iff_toNat_le, size]
    exact low
  constructor
  · simp only [isDigit, Bool.and_eq_true, decide_eq_true_eq, above, true_and]
    rw [UInt8.le_iff_toNat_le, size]
    exact high
  · rw [digit, UInt8.toNat_sub_of_le _ _ above, size]
    rfl

/-- The digits of a number in decimal. -/
def digitsOf (n : Nat) : List Nat :=
  (Nat.toDigits 10 n).map Text.digitValue

theorem ofText_toString (n : Nat) : ofText (toString n) = (Nat.toDigits 10 n).map ascii := by
  rw [Nat.toString_eq_ofList_toDigits, ofText_ofList]
  have digits : ∀ c ∈ Nat.toDigits 10 n, String.utf8EncodeChar c = [ascii c] := by
    intro c mem
    have high := (Char.isDigit_iff_toNat.1 (Text.isDigit_of_mem_toDigits mem)).2
    exact utf8EncodeChar_ascii (Nat.lt_of_le_of_lt high (by decide))
  rw [List.flatMap_congr digits, List.map_eq_flatMap]

/-- What may follow a member of an object. -/
def Ends (rest : Payload) : Prop :=
  ∀ b ∈ rest.head?, b = ascii ',' ∨ b = ascii '\x7d'

theorem ends_comma (rest : Payload) : Ends (ascii ',' :: rest) := by
  simp [Ends]

theorem ends_brace (rest : Payload) : Ends (ascii '\x7d' :: rest) := by
  simp [Ends]

variable {n : Nat} {rest : Payload}

theorem readDigits_written (n : Nat) (ends : Ends rest) :
    readDigits (ofText (toString n) ++ rest) = (digitsOf n, rest) := by
  have numeric : ∀ b ∈ (Nat.toDigits 10 n).map ascii, isDigit b = true := by
    intro b mem
    obtain ⟨c, digit, rfl⟩ := List.mem_map.1 mem
    exact (isDigit_ascii (Text.isDigit_of_mem_toDigits digit)).1
  have values : ((Nat.toDigits 10 n).map ascii).map digit = digitsOf n := by
    rw [List.map_map]
    exact List.map_congr_left fun c mem => (isDigit_ascii (Text.isDigit_of_mem_toDigits mem)).2
  -- neither a comma nor a brace goes on with the digits
  have beyond : rest.takeWhile isDigit = [] ∧ rest.dropWhile isDigit = rest := by
    cases rest with
    | nil => exact ⟨rfl, rfl⟩
    | cons b rest =>
      have other : isDigit b = false := by
        rcases ends b rfl with rfl | rfl <;> decide
      simp [other]
  rw [readDigits, ofText_toString, List.takeWhile_append_of_pos numeric, List.dropWhile_append_of_pos numeric, beyond.1,
    beyond.2, List.append_nil, values]

theorem digitsOf_of_lt (small : n < 10) : digitsOf n = [n] := by
  rw [digitsOf, Nat.toDigits_of_lt_base small, List.map_singleton, Text.digitValue]
  exact congrArg (fun d => [d]) (Nat.toNat_digitChar_sub_48_of_lt_ten small)

/-- The digits of a number in front of its last one are those of its tenth. -/
theorem digitsOf_of_le (large : 10 ≤ n) : ∃ d, digitsOf n = digitsOf (n / 10) ++ [d] := by
  refine ⟨Text.digitValue (Nat.digitChar (n % 10)), ?_⟩
  rw [digitsOf, Nat.toDigits_of_base_le (by decide) large, List.map_append]
  rfl

theorem digitsOf_ne_nil (n : Nat) : digitsOf n ≠ [] := by
  simp [digitsOf]

/-- A number in decimal does not begin with a zero, unless it is zero. -/
theorem head?_digitsOf (positive : 0 < n) : (digitsOf n).head? ≠ some 0 := by
  induction n using Nat.strongRecOn with
  | ind n ih =>
    by_cases small : n < 10
    · rw [digitsOf_of_lt small, List.head?_singleton]
      exact fun zero => absurd (Option.some.inj zero) (Nat.ne_of_gt positive)
    · obtain ⟨d, digits⟩ := digitsOf_of_le (Nat.le_of_not_lt small)
      rw [digits, List.head?_append_of_ne_nil _ (digitsOf_ne_nil _)]
      exact ih (n / 10) (by omega) (by omega)

theorem readWhole_written (n : Nat) (ends : Ends rest) :
    readWhole (ofText (toString n) ++ rest) = some (digitsOf n, rest) := by
  rw [readWhole, readDigits_written n ends]
  by_cases zero : n = 0
  · subst zero
    rw [digitsOf_of_lt (by decide)]
    rfl
  · have head := head?_digitsOf (Nat.pos_of_ne_zero zero)
    have nonempty := digitsOf_ne_nil n
    generalize digitsOf n = ds at head nonempty
    match ds with
    | [] => exact absurd rfl nonempty
    | 0 :: ds => exact absurd rfl head
    | (d + 1) :: ds => rfl

/-- A whole number as it is read after it has been written. -/
def numeralOf (i : Int) : Numeral where
  negative := i < 0
  whole := digitsOf i.natAbs
  fraction := []
  exponent := none

theorem readNumeral_written (negative : Bool) (n : Nat) (ends : Ends rest) :
    readNumeral negative (ofText (toString n) ++ rest) = some (⟨negative, digitsOf n, [], none⟩, rest) := by
  have fraction : readFraction rest = some ([], rest) := by
    cases rest with
    | nil => rfl
    | cons b rest => rcases ends b rfl with rfl | rfl <;> rfl
  have exponent : readExponent rest = some (none, rest) := by
    cases rest with
    | nil => rfl
    | cons b rest => rcases ends b rfl with rfl | rfl <;> rfl
  rw [readNumeral, readWhole_written n ends]
  simp [fraction, exponent]

/-- Digits that make a number of 64 bits are all taken. -/
theorem takeDigits_eq (cs : List Char) (value : Nat) (small : Nat.ofDigitChars 10 cs value ≤ Text.maxWord64) :
    takeDigits value (cs.map Text.digitValue) = (Nat.ofDigitChars 10 cs value, []) := by
  induction cs generalizing value with
  | nil => rfl
  | cons c cs ih =>
    rw [Nat.ofDigitChars_cons] at small ⊢
    have same : value * 10 + Text.digitValue c = 10 * value + (c.toNat - '0'.toNat) := by
      rw [Nat.mul_comm, Text.digitValue]
    -- the value only grows, so that it is in range at every digit if it is at the last one
    have more : value * 10 + Text.digitValue c ≤ Text.maxWord64 := by
      rw [same]
      exact Nat.le_trans (Text.le_ofDigitChars cs _) small
    rw [List.map_cons, takeDigits, if_pos more, same]
    exact ih _ small

/-- A whole number of up to 64 bits as the value of a numeral. -/
def numberOf : Int → Number
  | .ofNat n => .nat n
  | .negSucc n => .negative (n + 1)

theorem numberOf_eq_nat_iff {i : Int} {k : Nat} : numberOf i = .nat k ↔ i = k := by
  cases i with
  | ofNat m =>
    simp only [numberOf, Number.nat.injEq, Int.ofNat_eq_natCast]
    omega
  | negSucc m =>
    refine iff_of_false ?_ (by omega)
    intro same
    cases same

theorem numberOf_eq_negative_iff {i : Int} {k : Nat} : numberOf i = .negative k ↔ i = -(k : Int) ∧ 0 < k := by
  cases i with
  | ofNat m =>
    refine iff_of_false ?_ ?_
    · intro same
      cases same
    · rw [Int.ofNat_eq_natCast]
      omega
  | negSucc m =>
    simp only [numberOf, Number.negative.injEq]
    omega

theorem text_numberOf (i : Int) : (numberOf i).text = toString i := by
  cases i <;> rfl

theorem ofNumeral?_numeralOf {i : Int} (low : -(Text.maxInt64 + 1 : Int) ≤ i) (high : i ≤ Text.maxWord64) :
    Number.ofNumeral? (numeralOf i) = some (numberOf i) := by
  have size : i.natAbs ≤ Text.maxWord64 := by
    simp only [Text.maxInt64, Text.maxWord64] at *
    omega
  have taken : takeDigits 0 (digitsOf i.natAbs) = (i.natAbs, []) := by
    have value : Nat.ofDigitChars 10 (Nat.toDigits 10 i.natAbs) 0 = i.natAbs := Nat.ofDigitChars_ten_toDigits
    rw [digitsOf, takeDigits_eq _ _ (value.symm ▸ size), value]
  simp only [Number.ofNumeral?, numeralOf, taken]
  cases i with
  | ofNat n => simp [numberOf]
  | negSucc n =>
    have small : n ≤ Text.maxInt64 := by omega
    simp [numberOf, small]

end Json

end Lookout
