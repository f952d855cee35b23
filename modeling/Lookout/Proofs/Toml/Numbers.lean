import Lookout.Proofs.Text.Joining
import Lookout.Proofs.Text.Numerals
import Lookout.Toml.Reader

/-!
# TOML numbers read back

A whole number is read from its decimal, if 64 bits carry it and the line ends after it: it is no time of day and no
date, for lack of a colon or a second minus sign, and no zero stands in front of other digits.
-/

namespace Lookout.Toml
set_option autoImplicit false
open Text

variable {s t rest ds : List Char} {count low high n : Nat} {mark : Char}

theorem readField_eq_some (read : readField count low high s = some (n, t)) :
    (s.take count).length = count ∧ (∀ c ∈ s.take count, c.isDigit = true) ∧ t = s.drop count := by
  simp only [readField] at read
  split at read
  · next fits =>
    simp only [Bool.and_eq_true, decide_eq_true_eq, List.all_eq_true] at fits
    exact ⟨fits.1.1.1, fits.1.1.2, (Prod.mk.inj (Option.some.inj read)).2.symm⟩
  · cases read

/-- A field and a mark after it are digits and that mark. -/
theorem digits_before_mark {r : List Char} (positive : 0 < count) (field : readField count low high s = some (n, t))
    (after : readMark mark t = some r) :
    ∃ ds, ds ≠ [] ∧ (∀ c ∈ ds, c.isDigit = true) ∧ s = ds ++ mark :: r := by
  obtain ⟨long, numeric, rfl⟩ := readField_eq_some field
  have shape : s.drop count = mark :: r := by
    unfold readMark at after
    split at after
    · next d r' found =>
      split at after
      · next same => rw [found, same, Option.some.inj after]
      · cases after
    · cases after
  refine ⟨s.take count, ?_, numeric, by rw [← shape, List.take_append_drop]⟩
  intro empty
  rw [empty] at long
  exact absurd long (Nat.ne_of_lt positive)

/-- Where neither a minus sign nor a colon follows the first digits, there is no time. -/
theorem readTime_eq_none (timeless : ∀ ds mark r, ds ≠ [] → (∀ c ∈ ds, c.isDigit = true) → s = ds ++ mark :: r →
    mark ≠ '-' ∧ mark ≠ ':') : readTime s = none := by
  have date : readDate s = none := by
    unfold readDate
    cases field : readField 4 0 9999 s with
    | none => rfl
    | some year =>
      cases after : readMark '-' year.2 with
      | none => simp [after]
      | some r =>
        obtain ⟨ds, nonempty, numeric, shape⟩ := digits_before_mark (by decide) field after
        exact absurd rfl (timeless ds _ r nonempty numeric shape).1
  have time : readTimeOfDay s = none := by
    unfold readTimeOfDay
    cases field : readField 2 0 23 s with
    | none => rfl
    | some hours =>
      cases after : readMark ':' hours.2 with
      | none => simp [after]
      | some r =>
        obtain ⟨ds, nonempty, numeric, shape⟩ := digits_before_mark (by decide) field after
        exact absurd rfl (timeless ds _ r nonempty numeric shape).2
  rw [readTime, date, time]
  rfl

theorem readTime_digits (numeric : ∀ c ∈ ds, c.isDigit = true) (rest : List Char) :
    readTime (ds ++ '\n' :: rest) = none := by
  refine readTime_eq_none fun ds' mark r _ numeric' shape => ?_
  have feed : Char.isDigit '\n' = false := rfl
  by_cases digit : mark.isDigit = true
  · constructor <;> (rintro rfl; cases digit)
  · have same := congrArg (List.dropWhile Char.isDigit) shape
    rw [dropWhile_append_cons numeric feed, dropWhile_append_cons numeric' (by simpa using digit)] at same
    rw [← (List.cons.inj same).1]
    decide

theorem readTime_minus (s : List Char) : readTime ('-' :: s) = none := by
  refine readTime_eq_none fun ds mark r nonempty numeric shape => ?_
  obtain ⟨d, ds, rfl⟩ := List.exists_cons_of_ne_nil nonempty
  obtain rfl := (List.cons.inj shape).1
  cases numeric _ List.mem_cons_self

theorem readMoreDigits_digits (numeric : ∀ c ∈ ds, c.isDigit = true) (rest : List Char) :
    readMoreDigits Char.isDigit (ds ++ '\n' :: rest) = some (ds, '\n' :: rest) := by
  induction ds with
  | nil => simp [readMoreDigits]
  | cons c ds ih =>
    have digit := numeric c List.mem_cons_self
    have later := ih fun d mem => numeric d (List.mem_cons_of_mem c mem)
    have other : c ≠ '_' := by
      rintro rfl
      cases digit
    rw [List.cons_append, readMoreDigits]
    · simp [digit, later]
    · intro d r same _
      exact absurd same other

theorem toDigits_append_ne {d : Char} (strange : d.isDigit = false) (n : Nat) (t r : List Char) :
    Nat.toDigits 10 n ++ t ≠ d :: r := by
  intro same
  obtain ⟨c, ds, digits, digit⟩ := exists_toDigits_eq_cons n
  rw [digits] at same
  obtain rfl := (List.cons.inj same).1
  exact Bool.false_ne_true (strange.symm.trans digit)

theorem readWholeDigits_toDigits (n : Nat) (rest : List Char) :
    readWholeDigits (Nat.toDigits 10 n ++ '\n' :: rest) = some (Nat.toDigits 10 n, '\n' :: rest) := by
  obtain ⟨c, ds, digits, digit⟩ := exists_toDigits_eq_cons n
  by_cases zero : c = '0'
  · obtain rfl := eq_zero_of_toDigits (by decide) (zero ▸ digits)
    rfl
  · have later : ∀ d ∈ ds, d.isDigit = true := fun d mem =>
      isDigit_of_mem_toDigits (digits ▸ List.mem_cons_of_mem c mem)
    rw [digits, List.cons_append, readWholeDigits]
    · rw [readDigitRun, if_pos digit, readMoreDigits_digits later]
      rfl
    · intro r same
      exact zero (List.cons.inj same).1

theorem hexValue?_of_isDigit {c : Char} (numeric : c.isDigit = true) :
    Url.hexValue? c = some (c.toNat - '0'.toNat) := by
  rw [Url.hexValue?, if_pos numeric]

theorem numberOf_toDigits (n : Nat) : numberOf 10 (Nat.toDigits 10 n) = n := by
  have fold : ∀ (ds : List Char) (value : Nat), (∀ c ∈ ds, c.isDigit = true) →
      ds.foldl (fun n c => n * 10 + (Url.hexValue? c).getD 0) value = Nat.ofDigitChars 10 ds value := by
    intro ds
    induction ds with
    | nil => simp
    | cons c ds ih =>
      intro value numeric
      have digit := hexValue?_of_isDigit (numeric c List.mem_cons_self)
      rw [List.foldl_cons, ih _ fun d mem => numeric d (List.mem_cons_of_mem c mem), Nat.ofDigitChars_cons, digit,
        Nat.mul_comm]
      rfl
  rw [numberOf, fold _ _ fun c mem => isDigit_of_mem_toDigits mem]
  exact Nat.ofDigitChars_ten_toDigits

theorem readUnsigned_toDigits (negative : Bool) (n : Nat) (rest : List Char) :
    readUnsigned negative (Nat.toDigits 10 n ++ '\n' :: rest) =
      (integer? negative n).map (·, '\n' :: rest) := by
  have whole := readWholeDigits_toDigits n rest
  unfold readUnsigned
  split
  · next same => exact absurd same (toDigits_append_ne rfl _ _ _)
  · next same => exact absurd same (toDigits_append_ne rfl _ _ _)
  · rw [whole]
    simp only [Option.bind_eq_bind, Option.bind_some, numberOf_toDigits]
    cases integer? negative n <;> rfl

theorem readNumber_toDigits (n : Nat) (rest : List Char) :
    readNumber (Nat.toDigits 10 n ++ '\n' :: rest) = (integer? false n).map (·, '\n' :: rest) := by
  rw [← readUnsigned_toDigits false n rest]
  unfold readNumber
  split
  · next same => exact absurd same (toDigits_append_ne rfl _ _ _)
  · next same => exact absurd same (toDigits_append_ne rfl _ _ _)
  · next mark r same =>
    -- a zero stands alone, so that what follows it is the end of the line
    have zero : Nat.toDigits 10 n = ['0'] := by
      obtain ⟨c, ds, digits, -⟩ := exists_toDigits_eq_cons n
      rw [digits] at same
      obtain rfl := (List.cons.inj same).1
      obtain rfl := eq_zero_of_toDigits (by decide) digits
      rfl
    rw [zero] at same
    obtain rfl : '\n' = mark := (List.cons.inj (List.cons.inj same).2).1
    simp [radixOf?, zero]
  · rfl

/-- A value that begins with a digit or a minus sign is a time or a number. -/
theorem readValue_numeric (depth : Nat) {c : Char} (first : c.isDigit = true ∨ c = '-') (r : List Char) :
    readValue depth (c :: r) = (readTime (c :: r)).orElse fun _ => readNumber (c :: r) := by
  have other : ∀ d : Char, d.isDigit = false → d ≠ '-' → c ≠ d := by
    rintro d noDigit sign rfl
    rcases first with digit | same
    · exact Bool.false_ne_true (noDigit.symm.trans digit)
    · exact sign same
  unfold readValue
  split
  · next same => exact absurd (List.cons.inj same).1 (other _ rfl (by decide))
  · next same => exact absurd (List.cons.inj same).1 (other _ rfl (by decide))
  · next same => exact absurd (List.cons.inj same).1 (other _ rfl (by decide))
  · next same => exact absurd (List.cons.inj same).1 (other _ rfl (by decide))
  · next same => exact absurd (List.cons.inj same).1 (other _ rfl (by decide))
  · next same => exact absurd (List.cons.inj same).1 (other _ rfl (by decide))
  · rfl

/-- **A whole number reads back** at the end of a line, if 64 bits carry it. -/
theorem readValue_integer (depth : Nat) {i : Int} (low : -(maxInt64 + 1 : Int) ≤ i) (high : i ≤ maxInt64)
    (rest : List Char) : readValue depth ((toString i).toList ++ '\n' :: rest) = some (.integer i, '\n' :: rest) := by
  cases i with
  | ofNat n =>
    change readValue depth ((toString n).toList ++ '\n' :: rest) = _
    have small : n ≤ maxInt64 := by
      simp only [Int.ofNat_eq_natCast] at high
      omega
    have time := readTime_digits (fun c mem => @isDigit_of_mem_toDigits n c mem) rest
    have number := readNumber_toDigits n rest
    obtain ⟨c, ds, digits, digit⟩ := exists_toDigits_eq_cons n
    rw [digits, List.cons_append] at time number
    rw [toList_toString, digits, List.cons_append, readValue_numeric depth (.inl digit), time, number]
    simp [integer?, small]
  | negSucc n =>
    have written : (toString (Int.negSucc n)).toList = '-' :: Nat.toDigits 10 (n + 1) := by
      change ("-" ++ toString (n + 1)).toList = _
      rw [String.toList_append, toList_toString]
      rfl
    have small : n + 1 ≤ maxInt64 + 1 := by omega
    rw [written, List.cons_append, readValue_numeric depth (.inr rfl), readTime_minus]
    change readUnsigned true (Nat.toDigits 10 (n + 1) ++ '\n' :: rest) = _
    rw [readUnsigned_toDigits, integer?, if_pos rfl, if_pos small]
    rfl

end Lookout.Toml
