import Lookout.Text.Numeral
import Lookout.Proofs.Text.Trimming

/-!
# Numerals read

Digits are read as the number that they write in decimal, as long as it is in range, and a number that is read is in
range. So a whole number is read again from its decimal.
-/

namespace Lookout.Text
set_option autoImplicit false

variable {limit value n : Nat} {excess : NumeralError} {cs : List Char} {i : Int}

theorem isDigit_range {c : Char} (numeric : c.isDigit = true) : 48 ≤ c.toNat ∧ c.toNat ≤ 57 := by
  obtain ⟨low, high⟩ := (Bool.and_eq_true _ _).mp numeric
  exact ⟨of_decide_eq_true low, of_decide_eq_true high⟩

theorem isAlphanum_range {c : Char} (h : c.isAlphanum = true) : 48 ≤ c.toNat ∧ c.toNat ≤ 122 := by
  rcases (Bool.or_eq_true _ _).mp h with letter | numeric
  · rcases (Bool.or_eq_true _ _).mp letter with upper | lower
    · have range : 65 ≤ c.toNat ∧ c.toNat ≤ 90 := of_decide_eq_true upper
      omega
    · obtain ⟨low, high⟩ := (Bool.and_eq_true _ _).mp lower
      have range : 97 ≤ c.toNat ∧ c.toNat ≤ 122 := ⟨of_decide_eq_true low, of_decide_eq_true high⟩
      omega
  · have range := isDigit_range numeric
    omega

/-- The digits of a number are those of its base. -/
theorem exists_digitChar_of_mem {b n : Nat} {c : Char} (base : 1 < b) (mem : c ∈ Nat.toDigits b n) :
    ∃ d < b, c = Nat.digitChar d := by
  induction n using Nat.strongRecOn with
  | ind n ih =>
    rw [Nat.toDigits_eq_if base] at mem
    split at mem
    · next small => exact ⟨n, small, by simpa using mem⟩
    · next large =>
      rcases List.mem_append.1 mem with front | last
      · have fewer : n / b < n := Nat.div_lt_self (by omega) base
        exact ih (n / b) fewer front
      · have below : n % b < b := Nat.mod_lt n (by omega)
        exact ⟨n % b, below, by simpa using last⟩

theorem not_mem_toDigits {b : Nat} {c : Char} (base : 1 < b) (small : b ≤ 16)
    (other : ∀ d < 16, Nat.digitChar d ≠ c) (n : Nat) : c ∉ Nat.toDigits b n := by
  intro mem
  obtain ⟨d, below, rfl⟩ := exists_digitChar_of_mem base mem
  exact other d (by omega) rfl

/-- Only zero begins with a zero. -/
theorem eq_zero_of_toDigits {b n : Nat} {r : List Char} (base : 1 < b)
    (digits : Nat.toDigits b n = '0' :: r) : n = 0 := by
  induction n using Nat.strongRecOn generalizing r with
  | ind n ih =>
    rw [Nat.toDigits_eq_if base] at digits
    split at digits
    · exact Nat.digitChar_eq_zero.1 (List.cons.inj digits).1
    · next large =>
      obtain ⟨c, cs, front⟩ := List.exists_cons_of_ne_nil (@Nat.toDigits_ne_nil (n / b) b)
      rw [front] at digits
      obtain ⟨rfl, -⟩ := List.cons.inj digits
      have fewer : n / b < n := Nat.div_lt_self (by omega) base
      have zero := ih (n / b) fewer front
      have positive := Nat.div_pos (Nat.le_of_not_lt large) (by omega : 0 < b)
      omega

theorem isDigit_of_mem_toDigits {c : Char} (mem : c ∈ Nat.toDigits 10 n) : c.isDigit = true :=
  Nat.isDigit_of_mem_toDigits (by decide) (by decide) mem

/-- A decimal begins with a digit. -/
theorem exists_toDigits_eq_cons (n : Nat) : ∃ c ds, Nat.toDigits 10 n = c :: ds ∧ c.isDigit = true := by
  obtain ⟨c, ds, digits⟩ := List.exists_cons_of_ne_nil (@Nat.toDigits_ne_nil n 10)
  exact ⟨c, ds, digits, isDigit_of_mem_toDigits (digits ▸ List.mem_cons_self)⟩

theorem le_ofDigitChars (cs : List Char) (value : Nat) : value ≤ Nat.ofDigitChars 10 cs value := by
  induction cs generalizing value with
  | nil => simp
  | cons c cs ih =>
    rw [Nat.ofDigitChars_cons]
    exact Nat.le_trans (by omega) (ih _)

/-- Digits are read as the number that they write, unless it is too large. -/
theorem readDigits_eq (numeric : ∀ c ∈ cs, c.isDigit = true) (start : value ≤ limit) :
    readDigits limit excess value cs =
      if Nat.ofDigitChars 10 cs value ≤ limit then .ok (Nat.ofDigitChars 10 cs value) else .error excess := by
  induction cs generalizing value with
  | nil => simp [readDigits, start]
  | cons c cs ih =>
    rw [List.forall_mem_cons] at numeric
    have same : value * 10 + digitValue c = 10 * value + (c.toNat - '0'.toNat) := by
      rw [Nat.mul_comm, digitValue]
    rw [readDigits, if_pos numeric.1, Nat.ofDigitChars_cons, ← same]
    by_cases more : value * 10 + digitValue c ≤ limit
    · simp only [if_pos more, ih numeric.2 more]
    · -- the value only grows, so that it is too large at the end if it is so here
      have beyond : ¬ Nat.ofDigitChars 10 cs (value * 10 + digitValue c) ≤ limit :=
        fun small => more (Nat.le_trans (le_ofDigitChars cs _) small)
      simp only [if_neg more, if_neg beyond]

theorem readDigits_le (start : value ≤ limit) (read : readDigits limit excess value cs = .ok n) : n ≤ limit := by
  induction cs generalizing value with
  | nil =>
    obtain rfl := Except.ok.inj read
    exact start
  | cons c cs ih =>
    rw [readDigits] at read
    split at read
    · by_cases more : value * 10 + digitValue c ≤ limit
      · simp only [if_pos more] at read
        exact ih more read
      · simp [if_neg more] at read
    · cases read

theorem readMagnitude_le (read : readMagnitude limit excess cs = .ok n) : n ≤ limit := by
  cases cs with
  | nil => cases read
  | cons c cs => exact readDigits_le (Nat.zero_le _) read

/-- A number that is read is in range. -/
theorem readInt_range (read : readInt limit cs = .ok i) : -(limit + 1 : Int) ≤ i ∧ i ≤ limit := by
  have positive : ∀ ds, (readMagnitude limit .tooLarge ds).map Int.ofNat = .ok i → -(limit + 1 : Int) ≤ i ∧ i ≤ limit := by
    intro ds given
    cases found : readMagnitude limit .tooLarge ds with
    | error e => simp [found, Except.map] at given
    | ok n =>
      rw [found] at given
      obtain rfl := Except.ok.inj given
      have small := readMagnitude_le found
      simp only [Int.ofNat_eq_natCast]
      omega
  unfold readInt at read
  split at read
  · cases read
  · exact positive _ read
  · next ds =>
    cases found : readMagnitude (limit + 1) .tooSmall ds with
    | error e => simp [found, Except.map] at read
    | ok n =>
      rw [found] at read
      have negated : -(n : Int) = i := Except.ok.inj read
      have small := readMagnitude_le found
      omega
  · exact positive _ read

theorem digitChar_digitValue {c : Char} (numeric : c.isDigit = true) :
    digitValue c < 10 ∧ Nat.digitChar (digitValue c) = c := by
  have range := isDigit_range numeric
  have value : digitValue c = c.toNat - 48 := rfl
  have back : ∀ d < 10, Nat.digitChar d = Char.ofNat (48 + d) := by decide
  refine ⟨by omega, ?_⟩
  rw [back _ (by omega), value, Nat.add_sub_cancel' range.1, Char.ofNat_toNat]

/-- Digits without a zero too many in front are the decimal of the number that they write. -/
theorem toDigits_ofDigitChars (numeric : ∀ c ∈ cs, c.isDigit = true) (nonempty : cs ≠ [])
    (short : ∀ r, cs = '0' :: r → r = []) : Nat.toDigits 10 (Nat.ofDigitChars 10 cs 0) = cs := by
  induction cs using List.reverseRecOn with
  | nil => exact absurd rfl nonempty
  | append_singleton ds c ih =>
    obtain ⟨digit, char⟩ := digitChar_digitValue (numeric c (by simp))
    have value : Nat.ofDigitChars 10 (ds ++ [c]) 0 = 10 * Nat.ofDigitChars 10 ds 0 + digitValue c := by
      rw [Nat.ofDigitChars_append, Nat.ofDigitChars_cons, Nat.ofDigitChars_nil]
      rfl
    rw [value]
    by_cases more : ds = []
    · subst more
      simp [Nat.toDigits_of_lt_base digit, char]
    · have front : Nat.toDigits 10 (Nat.ofDigitChars 10 ds 0) = ds := by
        refine ih (fun d mem => numeric d (by simp [mem])) more ?_
        rintro r rfl
        have := short (r ++ [c]) rfl
        simp at this
      have positive : Nat.ofDigitChars 10 ds 0 ≠ 0 := by
        intro zero
        rw [zero] at front
        have := short [c] (by rw [← front]; rfl)
        simp at this
      rw [Nat.toDigits_of_base_le (by decide) (by omega), Nat.mul_add_div (by decide), Nat.mul_add_mod,
        Nat.div_eq_of_lt digit, Nat.mod_eq_of_lt digit, Nat.add_zero, front, char]

theorem readMagnitude_toDigits (small : n ≤ limit) : readMagnitude limit excess (Nat.toDigits 10 n) = .ok n := by
  have numeric : ∀ c ∈ Nat.toDigits 10 n, c.isDigit = true := fun c mem => isDigit_of_mem_toDigits mem
  have value : Nat.ofDigitChars 10 (Nat.toDigits 10 n) 0 = n := Nat.ofDigitChars_ten_toDigits
  have read : readDigits limit excess 0 (Nat.toDigits 10 n) = _ := readDigits_eq numeric (Nat.zero_le limit)
  rw [value, if_pos small] at read
  obtain ⟨c, cs, digits⟩ := List.exists_cons_of_ne_nil (@Nat.toDigits_ne_nil n 10)
  rw [digits] at read ⊢
  exact read

/-- A numeral that begins with a digit has no sign. -/
theorem readInt_cons_of_digit {c : Char} (numeric : c.isDigit = true) (cs : List Char) :
    readInt limit (c :: cs) = (readMagnitude limit .tooLarge (c :: cs)).map Int.ofNat := by
  unfold readInt
  split
  · next empty => cases empty
  · next plus =>
    obtain ⟨rfl, -⟩ := List.cons.inj plus
    cases numeric
  · next minus =>
    obtain ⟨rfl, -⟩ := List.cons.inj minus
    cases numeric
  · rfl

theorem readNat_of_digits (numeric : ∀ c ∈ cs, c.isDigit = true) (nonempty : cs ≠ []) :
    readNat limit cs =
      if Nat.ofDigitChars 10 cs 0 ≤ limit then .ok (Nat.ofDigitChars 10 cs 0) else .error .tooLarge := by
  obtain ⟨c, cs, rfl⟩ := List.exists_cons_of_ne_nil nonempty
  rw [← readDigits_eq numeric (Nat.zero_le limit)]
  unfold readNat
  split
  · next empty => cases empty
  · next plus =>
    obtain ⟨rfl, -⟩ := List.cons.inj plus
    exact absurd (numeric '+' (by simp)) (by decide)
  · rfl

theorem toList_toString (n : Nat) : (toString n).toList = Nat.toDigits 10 n := by
  rw [Nat.toString_eq_ofList_toDigits, String.toList_ofList]

theorem isDigit_of_mem_toString {c : Char} (mem : c ∈ (toString n).toList) : c.isDigit = true :=
  isDigit_of_mem_toDigits (toList_toString n ▸ mem)

/-- **A whole number is read from its decimal.** -/
theorem readInt_toString (low : -(limit + 1 : Int) ≤ i) (high : i ≤ limit) : readInt limit (toString i).toList = .ok i := by
  cases i with
  | ofNat n =>
    have small : n ≤ limit := by
      simp only [Int.ofNat_eq_natCast] at high
      omega
    have read : readMagnitude limit .tooLarge (Nat.toDigits 10 n) = .ok n := readMagnitude_toDigits small
    obtain ⟨c, cs, digits⟩ := List.exists_cons_of_ne_nil (@Nat.toDigits_ne_nil n 10)
    change readInt limit (toString n).toList = _
    have numeric : c.isDigit = true := @isDigit_of_mem_toString n c (by simp [digits])
    rw [toList_toString, digits, readInt_cons_of_digit numeric, ← digits, read]
    rfl
  | negSucc n =>
    have written : (toString (Int.negSucc n)).toList = '-' :: (toString (n + 1)).toList := by
      change ("-" ++ toString (n + 1)).toList = _
      simp
    have small : n + 1 ≤ limit + 1 := by omega
    rw [written, toList_toString, readInt, readMagnitude_toDigits small]
    rfl

/-- The decimal of a whole number is made of digits and a sign. -/
theorem digit_or_sign_of_mem_toString {c : Char} (mem : c ∈ (toString i).toList) : c.isDigit = true ∨ c = '-' := by
  cases i with
  | ofNat n => exact .inl (@isDigit_of_mem_toString n c mem)
  | negSucc n =>
    change c ∈ ("-" ++ toString (n + 1)).toList at mem
    rw [String.toList_append, List.mem_append] at mem
    rcases mem with sign | digits
    · exact .inr (by simpa using sign)
    · exact .inl (isDigit_of_mem_toString digits)

/-- A number of 64 bits with a sign is in range. -/
theorem int64_range (n : Int64) : -(maxInt64 + 1 : Int) ≤ n.toInt ∧ n.toInt ≤ maxInt64 := by
  have least := n.le_toInt
  have greatest := n.toInt_lt
  simp only [maxInt64]
  omega

theorem le_maxWord64 (small : i ≤ maxInt64) : i ≤ maxWord64 := by
  simp only [maxInt64, maxWord64] at small ⊢
  omega

theorem isBlank_of_isDigit {c : Char} (numeric : c.isDigit = true) : isBlank c = false := by
  obtain ⟨low, high⟩ := isDigit_range numeric
  simp [isBlank]
  omega

/-- A decimal has no blanks around it. -/
theorem trim_toString (i : Int) : trim (toString i).toList = (toString i).toList := by
  have visible : ∀ c ∈ (toString i).toList, isBlank c = false := by
    intro c mem
    rcases digit_or_sign_of_mem_toString mem with numeric | rfl
    · exact isBlank_of_isDigit numeric
    · decide
  exact trim_eq_self (fun c mem => visible c (List.mem_of_mem_head? mem))
    (fun c mem => visible c (List.mem_of_getLast? mem))

end Lookout.Text
