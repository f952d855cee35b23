import Lookout.Proofs.Json.Numerals
import Mathlib.Data.Nat.Digits.Lemmas

/-!
# Whole numbers as JSON writes them

A numeral without fraction and exponent stands for the whole number of its digits, as long as 64 bits carry it. A zero
with a minus sign is no whole number, and neither is one with a fraction or an exponent, whatever its value.
-/

namespace Lookout.Json
set_option autoImplicit false
open Text

/-- The number that the digits in front of a point write. -/
def Numeral.magnitude (n : Numeral) : Nat :=
  Nat.ofDigits 10 n.whole.reverse

/-- The numeral is written as a whole number, and it is this one. -/
structure Numeral.IsWhole (n : Numeral) (i : Int) : Prop where
  fraction : n.fraction = []
  exponent : n.exponent = none
  value : i = if n.negative then -(n.magnitude : Int) else n.magnitude
  nonzero : n.negative = true → i ≠ 0

variable {n : Numeral} {i j : Int} {value m : Nat} {ds : List Nat}

theorem isWhole_iff (fraction : n.fraction = []) (exponent : n.exponent = none) : n.IsWhole i ↔
    (i = if n.negative then -(n.magnitude : Int) else n.magnitude) ∧ (n.negative = true → i ≠ 0) :=
  ⟨fun whole => ⟨whole.value, whole.nonzero⟩, fun ⟨value, nonzero⟩ => ⟨fraction, exponent, value, nonzero⟩⟩

theorem Numeral.IsWhole.unique (whole : n.IsWhole i) (whole' : n.IsWhole j) : i = j :=
  whole.value.trans whole'.value.symm

/-- Digits are all taken just if the number that they write in the end is in range. -/
theorem takeDigits_eq_iff (start : value ≤ maxWord64) :
    takeDigits value ds = (m, []) ↔ value * 10 ^ ds.length + Nat.ofDigits 10 ds.reverse = m ∧ m ≤ maxWord64 := by
  induction ds generalizing value with
  | nil =>
    simp only [takeDigits, Prod.mk.injEq, and_true, List.length_nil, pow_zero, mul_one, List.reverse_nil, Nat.ofDigits_nil,
      add_zero]
    constructor
    · rintro rfl
      exact ⟨rfl, start⟩
    · exact And.left
  | cons d ds ih =>
    have sum : value * 10 ^ (d :: ds).length + Nat.ofDigits 10 (d :: ds).reverse =
        (value * 10 + d) * 10 ^ ds.length + Nat.ofDigits 10 ds.reverse := by
      rw [List.reverse_cons, Nat.ofDigits_append, Nat.ofDigits_singleton, List.length_reverse, List.length_cons]
      ring
    rw [takeDigits, sum]
    by_cases more : value * 10 + d ≤ maxWord64
    · rw [if_pos more]
      exact ih more
    · -- later digits do not make the number smaller
      have grows : value * 10 + d ≤ (value * 10 + d) * 10 ^ ds.length := Nat.le_mul_of_pos_right _ (by positivity)
      rw [if_neg more]
      refine iff_of_false (by simp) fun both => ?_
      omega

theorem takeDigits_whole_iff : takeDigits 0 n.whole = (m, []) ↔ n.magnitude = m ∧ m ≤ maxWord64 := by
  rw [takeDigits_eq_iff (Nat.zero_le maxWord64), Nat.zero_mul, Nat.zero_add, Numeral.magnitude]

theorem numberOf_ne_float (i : Int) (x : Float) : Number.float x ≠ numberOf i := by
  cases i <;> simp [numberOf]

/-- **Which numerals stand for a whole number** of 64 bits: those that write it. -/
theorem ofNumeral?_eq_numberOf_iff (low : -(maxInt64 + 1 : Int) ≤ i) (high : i ≤ maxWord64) :
    Number.ofNumeral? n = some (numberOf i) ↔ n.IsWhole i := by
  have noFloat : ∀ x?, (x? : Option Float).map .float ≠ some (numberOf i) := by
    intro x? same
    obtain ⟨x, -, float⟩ := Option.map_eq_some_iff.1 same
    exact numberOf_ne_float i x float
  unfold Number.ofNumeral?
  split
  · next plain =>
    obtain ⟨fraction, exponent⟩ : n.fraction = [] ∧ n.exponent = none := by simpa using plain
    split
    · next value taken =>
      obtain ⟨rfl, small⟩ := takeDigits_whole_iff.1 taken
      rw [isWhole_iff fraction exponent]
      cases n.negative with
      | false => simp [eq_comm (b := numberOf i), numberOf_eq_nat_iff]
      | true =>
        simp only [Bool.not_true, Bool.false_eq_true, if_false, if_true, forall_true_left]
        split
        · next fits =>
          have nonzero : n.magnitude ≠ 0 ∧ n.magnitude ≤ maxInt64 + 1 := by simpa using fits
          rw [Option.some.injEq, eq_comm, numberOf_eq_negative_iff]
          omega
        · next beyond =>
          have other : n.magnitude ≠ 0 → maxInt64 + 1 < n.magnitude := by simpa using beyond
          refine iff_of_false (fun same => numberOf_ne_float i _ (Option.some.inj same)) fun whole => ?_
          obtain ⟨value, nonzero⟩ := whole
          omega
    · next left =>
      refine iff_of_false (noFloat _) fun whole => left n.magnitude (takeDigits_whole_iff.2 ⟨rfl, ?_⟩)
      obtain ⟨value, -⟩ := (isWhole_iff fraction exponent).1 whole
      simp only [maxInt64, maxWord64] at low high ⊢
      split at value <;> omega
  · next rest =>
    refine iff_of_false (noFloat _) fun whole => rest ?_
    simp [whole.fraction, whole.exponent]

end Lookout.Json
