import Lookout.Proofs.Text.Numerals
import Mathlib.Algebra.Group.Nat.Defs

/-!
# What numerals stand for

A numeral stands for one whole number, however many zeros it begins with. If the number is in range, the numeral is
read as this number, and if it is not, the numeral is not read at all; nothing but a numeral is read.
-/

namespace Lookout.Text
set_option autoImplicit false

/-- The digits write the number in decimal; zeros in front of it do not count. -/
structure Writes (ds : List Char) (n : Nat) : Prop where
  nonempty : ds ≠ []
  numeric : ∀ c ∈ ds, c.isDigit = true
  value : Nat.ofDigitChars 10 ds 0 = n

/-- The numeral stands for the number: digits, with or without a sign in front. -/
inductive StandsFor : List Char → Int → Prop where
  | bare {ds : List Char} {n : Nat} (digits : Writes ds n) : StandsFor ds n
  | plus {ds : List Char} {n : Nat} (digits : Writes ds n) : StandsFor ('+' :: ds) n
  | minus {ds : List Char} {n : Nat} (digits : Writes ds n) : StandsFor ('-' :: ds) (-(n : Int))

variable {limit value n : Nat} {excess : NumeralError} {s t cs ds : List Char} {i j : Int}

theorem writes_iff : Writes ds n ↔ ds ≠ [] ∧ ds.all Char.isDigit = true ∧ Nat.ofDigitChars 10 ds 0 = n := by
  rw [List.all_eq_true]
  exact ⟨fun w => ⟨w.nonempty, w.numeric, w.value⟩, fun ⟨nonempty, numeric, value⟩ => ⟨nonempty, numeric, value⟩⟩

instance : Decidable (Writes ds n) :=
  decidable_of_iff _ writes_iff.symm

/-- Digits begin with a digit, and not with a sign. -/
theorem Writes.exists_cons (digits : Writes ds n) : ∃ c r, ds = c :: r ∧ c.isDigit = true := by
  obtain ⟨c, r, rfl⟩ := List.exists_cons_of_ne_nil digits.nonempty
  exact ⟨c, r, rfl, digits.numeric c List.mem_cons_self⟩

theorem ofDigitChars_lt (numeric : ∀ c ∈ ds, c.isDigit = true) (value : Nat) :
    Nat.ofDigitChars 10 ds value < (value + 1) * 10 ^ ds.length := by
  induction ds generalizing value with
  | nil => simp
  | cons c ds ih =>
    rw [List.forall_mem_cons] at numeric
    obtain ⟨digit, -⟩ := digitChar_digitValue numeric.1
    rw [digitValue] at digit
    calc Nat.ofDigitChars 10 (c :: ds) value
        = Nat.ofDigitChars 10 ds (10 * value + (c.toNat - '0'.toNat)) := Nat.ofDigitChars_cons
      _ < (10 * value + (c.toNat - '0'.toNat) + 1) * 10 ^ ds.length := ih numeric.2 _
      _ ≤ (value + 1) * 10 * 10 ^ ds.length := Nat.mul_le_mul_right _ (by omega)
      _ = (value + 1) * 10 ^ (c :: ds).length := by rw [List.length_cons, Nat.pow_succ', Nat.mul_assoc]

/-- As many digits as there are bound the number. -/
theorem Writes.lt (digits : Writes ds n) : n < 10 ^ ds.length := by
  simpa [digits.value] using ofDigitChars_lt digits.numeric 0

/-- What is read digit by digit are digits. -/
theorem isDigit_of_readDigits (read : readDigits limit excess value cs = .ok n) : ∀ c ∈ cs, c.isDigit = true := by
  induction cs generalizing value with
  | nil => simp
  | cons c cs ih =>
    rw [readDigits] at read
    split at read
    · next numeric =>
      by_cases more : value * 10 + digitValue c ≤ limit
      · simp only [if_pos more] at read
        exact List.forall_mem_cons.2 ⟨numeric, ih read⟩
      · simp [if_neg more] at read
    · cases read

/-- Digits are read as the number that they write, and nothing else is read. -/
theorem readMagnitude_eq_ok_iff : readMagnitude limit excess ds = .ok n ↔ Writes ds n ∧ n ≤ limit := by
  cases ds with
  | nil =>
    refine iff_of_false (by rintro ⟨⟩) fun both => ?_
    exact both.1.nonempty rfl
  | cons c r =>
    change readDigits limit excess 0 (c :: r) = .ok n ↔ _
    constructor
    · intro read
      have numeric := isDigit_of_readDigits read
      have small := readDigits_le (Nat.zero_le limit) read
      rw [readDigits_eq numeric (Nat.zero_le limit)] at read
      split at read
      · exact ⟨⟨List.cons_ne_nil c r, numeric, Except.ok.inj read⟩, small⟩
      · cases read
    · rintro ⟨⟨-, numeric, rfl⟩, small⟩
      rw [readDigits_eq numeric (Nat.zero_le limit), if_pos small]

theorem map_readMagnitude_eq_ok_iff {f : Nat → Int} : (readMagnitude limit excess ds).map f = .ok i ↔
    ∃ n, Writes ds n ∧ n ≤ limit ∧ f n = i := by
  have read : ∀ n, readMagnitude limit excess ds = .ok n ↔ Writes ds n ∧ n ≤ limit := fun n => readMagnitude_eq_ok_iff
  simp only [← and_assoc, ← read]
  cases readMagnitude limit excess ds <;> simp [Except.map]

theorem readInt_minus (limit : Nat) (ds : List Char) :
    readInt limit ('-' :: ds) = (readMagnitude (limit + 1) .tooSmall ds).map fun n => -(Int.ofNat n) := by
  rw [readInt]
  cases readMagnitude (limit + 1) .tooSmall ds <;> rfl

/-- **Which texts are read as which number**: the numerals that stand for it, if it is in range. -/
theorem readInt_eq_ok_iff : readInt limit cs = .ok i ↔ StandsFor cs i ∧ -(limit + 1 : Int) ≤ i ∧ i ≤ limit := by
  constructor
  · intro read
    refine ⟨?_, readInt_range read⟩
    unfold readInt at read
    split at read
    · cases read
    · obtain ⟨n, digits, -, rfl⟩ := map_readMagnitude_eq_ok_iff.1 read
      exact .plus digits
    · next ds =>
      have negated : readInt limit ('-' :: ds) = .ok i := read
      rw [readInt_minus] at negated
      obtain ⟨n, digits, -, rfl⟩ := map_readMagnitude_eq_ok_iff.1 negated
      exact .minus digits
    · obtain ⟨n, digits, -, rfl⟩ := map_readMagnitude_eq_ok_iff.1 read
      exact .bare digits
  · rintro ⟨stands, low, high⟩
    cases stands with
    | @bare ds n digits =>
      obtain ⟨c, r, rfl, numeric⟩ := digits.exists_cons
      rw [readInt_cons_of_digit numeric]
      exact map_readMagnitude_eq_ok_iff.2 ⟨n, digits, by omega, rfl⟩
    | @plus ds n digits => exact map_readMagnitude_eq_ok_iff.2 ⟨n, digits, by omega, rfl⟩
    | @minus ds n digits =>
      rw [readInt_minus]
      exact map_readMagnitude_eq_ok_iff.2 ⟨n, digits, by omega, rfl⟩

/-- A numeral stands for one number. -/
theorem StandsFor.unique (stands : StandsFor cs i) (stands' : StandsFor cs j) : i = j := by
  -- in a range that is wide enough, it is read as both
  have wide : ∀ k : Int, k.natAbs ≤ i.natAbs + j.natAbs → StandsFor cs k →
      readInt (i.natAbs + j.natAbs) cs = .ok k :=
    fun k small given => readInt_eq_ok_iff.2 ⟨given, by omega, by omega⟩
  have first := wide i (by omega) stands
  rw [wide j (by omega) stands'] at first
  exact (Except.ok.inj first).symm

/-- There are no blanks in a numeral. -/
theorem StandsFor.visible (stands : StandsFor cs i) : ∀ c ∈ cs, isBlank c = false := by
  have plain : ∀ {ds : List Char} {n : Nat}, Writes ds n → ∀ c ∈ ds, isBlank c = false :=
    fun digits c mem => isBlank_of_isDigit (digits.numeric c mem)
  cases stands with
  | bare digits => exact plain digits
  | plus digits => exact List.forall_mem_cons.2 ⟨by decide, plain digits⟩
  | minus digits => exact List.forall_mem_cons.2 ⟨by decide, plain digits⟩

theorem StandsFor.trim_eq (stands : StandsFor cs i) : trim cs = cs :=
  trim_eq_self (fun c mem => stands.visible c (List.mem_of_mem_head? mem))
    (fun c mem => stands.visible c (List.mem_of_getLast? mem))

/-- A numeral is what is trimmed of the texts that are made from it by blanks around. -/
theorem standsFor_trim_iff : StandsFor (trim s) i ↔ ∃ cs, StandsFor cs i ∧ Padded cs s := by
  constructor
  · intro stands
    exact ⟨trim s, stands, padded_trim s⟩
  · rintro ⟨cs, stands, padded⟩
    rwa [padded.trim_eq, stands.trim_eq]

end Lookout.Text
