import Lookout.Url.Percent
import Lookout.Proofs.DomainName.Ascii

/-!
# Percent encoding read back

What a set leaves as it is decides what is read back. The sets of URLs leave the percent sign and the hexadecimal
digits, so that encoding a text does not change what it decodes to: the text itself, as long as no percent sign in it
has two hexadecimal digits behind it. Such an escape makes the decoded text shorter.
-/

namespace Lookout.Url
set_option autoImplicit false
open DomainName

/-- A percent sign with two hexadecimal digits behind it is in the text. -/
def HasEscape (s : List Char) : Prop :=
  ∃ a b, (hexValue? a).isSome ∧ (hexValue? b).isSome ∧ ['%', a, b] <:+: s

/-- The set leaves escapes as they are. -/
structure Spares (encoded : EncodeSet) : Prop where
  percent : staysPlain encoded '%' = true
  digits : ∀ c, (hexValue? c).isSome → staysPlain encoded c = true

theorem isAscii_of_hexValue? {c : Char} (digit : (hexValue? c).isSome) : isAscii c = true := by
  unfold hexValue? at digit
  split at digit
  · next numeric => exact isAscii_of_isAlphanum (by simp [Char.isAlphanum, numeric])
  · split at digit
    · next lower =>
      obtain ⟨-, le⟩ : 'a' ≤ c ∧ c ≤ 'f' := by simpa using lower
      have bound : c.toNat ≤ 102 := le
      simp only [isAscii, decide_eq_true_eq]
      omega
    · split at digit
      · next upper =>
        obtain ⟨-, le⟩ : 'A' ≤ c ∧ c ≤ 'F' := by simpa using upper
        have bound : c.toNat ≤ 70 := le
        simp only [isAscii, decide_eq_true_eq]
        omega
      · cases digit

theorem spares_userinfoSet : Spares userinfoSet where
  percent := by decide
  digits c digit := by
    have all : (hexValue? c).isSome → staysPlain userinfoSet c = true :=
      ascii_induction (motive := fun c => (hexValue? c).isSome → staysPlain userinfoSet c = true) (by decide +kernel)
        (isAscii_of_hexValue? digit)
    exact all digit

/-- The set of a path encodes less than that of a userinfo. -/
theorem spares_pathSet : Spares pathSet where
  percent := by decide
  digits c digit := by
    have plain := spares_userinfoSet.digits c digit
    simp only [staysPlain, userinfoSet, Bool.and_eq_true, Bool.not_eq_true', Bool.or_eq_false_iff] at plain ⊢
    exact ⟨plain.1, plain.2.1⟩

/-! ### Decoding -/

section
variable {a b c : Char} {s r : List Char} {x y : Nat}

theorem percentDecode_cons (other : c ≠ '%') (r : List Char) :
    percentDecode (c :: r) = String.utf8EncodeChar c ++ percentDecode r := by
  rw [percentDecode]
  rintro a b t rfl -
  exact other rfl

theorem percentDecode_escape (first : hexValue? a = some x) (second : hexValue? b = some y) (r : List Char) :
    percentDecode ('%' :: a :: b :: r) = (x * 16 + y).toUInt8 :: percentDecode r := by
  simp [percentDecode, first, second]

/-- A percent sign that begins no escape stands for itself. -/
theorem percentDecode_percent
    (alone : ∀ a b t, r = a :: b :: t → ¬ ((hexValue? a).isSome ∧ (hexValue? b).isSome)) :
    percentDecode ('%' :: r) = 0x25 :: percentDecode r := by
  cases r with
  | nil => rfl
  | cons a r =>
    cases r with
    | nil =>
      rw [percentDecode]
      · rfl
      · simp
    | cons b r =>
      have differs := alone a b r rfl
      cases first : hexValue? a with
      | none => simp [percentDecode, first]
      | some x =>
        cases second : hexValue? b with
        | none => simp [percentDecode, first, second]
        | some y => simp [first, second] at differs

theorem hasEscape_cons_iff : HasEscape (c :: r) ↔
    (∃ a b t, c = '%' ∧ r = a :: b :: t ∧ (hexValue? a).isSome ∧ (hexValue? b).isSome) ∨ HasEscape r := by
  constructor
  · rintro ⟨a, b, first, second, occurs⟩
    rcases List.infix_cons_iff.1 occurs with ⟨t, e⟩ | later
    · obtain ⟨rfl, rest⟩ := List.cons.inj e
      exact .inl ⟨a, b, t, rfl, rest.symm, first, second⟩
    · exact .inr ⟨a, b, first, second, later⟩
  · rintro (⟨a, b, t, rfl, rfl, first, second⟩ | ⟨a, b, first, second, later⟩)
    · exact ⟨a, b, first, second, [], t, rfl⟩
    · exact ⟨a, b, first, second, List.infix_cons later⟩

theorem not_hasEscape_nil : ¬ HasEscape [] := by
  rintro ⟨a, b, -, -, occurs⟩
  simp at occurs

theorem percentDecode_of_not_hasEscape (plain : ¬ HasEscape s) : percentDecode s = s.flatMap String.utf8EncodeChar := by
  fun_induction percentDecode s with
  | case1 => rfl
  | case2 a b r x y second first ih =>
    exact absurd (hasEscape_cons_iff.2 (.inl ⟨a, b, r, rfl, rfl, by simp [first], by simp [second]⟩)) plain
  | case3 a b r _ ih =>
    rw [hasEscape_cons_iff, not_or] at plain
    rw [ih plain.2]
    rfl
  | case4 c r _ ih =>
    rw [hasEscape_cons_iff, not_or] at plain
    rw [ih plain.2, List.flatMap_cons]

theorem length_percentDecode_le (s : List Char) :
    (percentDecode s).length ≤ (s.flatMap String.utf8EncodeChar).length := by
  fun_induction percentDecode s with
  | case1 => simp
  | case2 a b r x y _ _ ih =>
    have sign : (String.utf8EncodeChar '%').length = 1 := rfl
    simp only [List.flatMap_cons, List.length_append, List.length_cons, sign]
    omega
  | case3 a b r _ ih =>
    have sign : (String.utf8EncodeChar '%').length = 1 := rfl
    rw [List.flatMap_cons, List.length_append, List.length_cons, sign]
    omega
  | case4 c r _ ih =>
    rw [List.flatMap_cons, List.length_append, List.length_append]
    omega

/-- An escape is decoded to less than its three characters. -/
theorem length_percentDecode_lt (escape : HasEscape s) :
    (percentDecode s).length < (s.flatMap String.utf8EncodeChar).length := by
  fun_induction percentDecode s with
  | case1 => exact absurd escape not_hasEscape_nil
  | case2 a b r x y _ _ ih =>
    have sign : (String.utf8EncodeChar '%').length = 1 := rfl
    have positive := a.utf8Size_pos
    have rest := length_percentDecode_le r
    simp only [List.flatMap_cons, List.length_append, List.length_cons, sign, String.length_utf8EncodeChar]
    omega
  | case3 a b r differs ih =>
    have sign : (String.utf8EncodeChar '%').length = 1 := rfl
    have later : HasEscape (a :: b :: r) := by
      rcases hasEscape_cons_iff.1 escape with ⟨a', b', t, -, same, first, second⟩ | later
      · simp only [List.cons.injEq] at same
        obtain ⟨rfl, rfl, -⟩ := same
        obtain ⟨x, first⟩ := Option.isSome_iff_exists.1 first
        obtain ⟨y, second⟩ := Option.isSome_iff_exists.1 second
        exact (differs x y first second).elim
      · exact later
    have rest := ih later
    rw [List.flatMap_cons, List.length_append, List.length_cons, sign]
    omega
  | case4 c r other ih =>
    have later : HasEscape r := by
      rcases hasEscape_cons_iff.1 escape with ⟨a, b, t, sign, same, -⟩ | later
      · exact (other a b t sign same).elim
      · exact later
    have rest := ih later
    rw [List.flatMap_cons, List.length_append, List.length_append]
    omega

/-- **A text without escapes is decoded to itself**, and no other one is. -/
theorem percentDecode_eq_iff : percentDecode s = s.flatMap String.utf8EncodeChar ↔ ¬ HasEscape s := by
  refine ⟨fun same escape => ?_, percentDecode_of_not_hasEscape⟩
  have shorter := length_percentDecode_lt escape
  rw [same] at shorter
  omega

end

/-! ### Encoding -/

section
variable {encoded : EncodeSet} {c : Char} {s t : List Char}

theorem percentEncode_cons (c : Char) (s : List Char) :
    percentEncode encoded (c :: s) = percentChar encoded c ++ percentEncode encoded s := List.flatMap_cons

theorem percentChar_of_stays (stays : staysPlain encoded c = true) : percentChar encoded c = [c] := if_pos stays

theorem hexValue?_upperHexDigit : ∀ n : Fin 16, hexValue? (upperHexDigit n.val) = some n.val := by
  decide

theorem percentDecode_percentByte (b : UInt8) (s : List Char) :
    percentDecode (percentByte b ++ s) = b :: percentDecode s := by
  have bound := b.toNat_lt
  have high : hexValue? (upperHexDigit (b.toNat / 16)) = some (b.toNat / 16) :=
    hexValue?_upperHexDigit ⟨b.toNat / 16, by omega⟩
  have low : hexValue? (upperHexDigit (b.toNat % 16)) = some (b.toNat % 16) :=
    hexValue?_upperHexDigit ⟨b.toNat % 16, by omega⟩
  have value : (b.toNat / 16 * 16 + b.toNat % 16).toUInt8 = b := by
    rw [Nat.div_add_mod']
    exact UInt8.ofNat_toNat
  rw [percentByte]
  exact (percentDecode_escape high low s).trans (by rw [value])

theorem percentDecode_percentBytes (bs : Payload) (s : List Char) :
    percentDecode (bs.flatMap percentByte ++ s) = bs ++ percentDecode s := by
  induction bs with
  | nil => rfl
  | cons b bs ih => rw [List.flatMap_cons, List.append_assoc, percentDecode_percentByte, ih, List.cons_append]

theorem percentEncode_eq_self (stay : ∀ c ∈ s, staysPlain encoded c = true) : percentEncode encoded s = s := by
  induction s with
  | nil => rfl
  | cons c s ih =>
    rw [List.forall_mem_cons] at stay
    rw [percentEncode_cons, percentChar_of_stays stay.1, ih stay.2, List.singleton_append]

theorem percentEncode_ne_nil (nonempty : s ≠ []) : percentEncode encoded s ≠ [] := by
  obtain ⟨c, r, rfl⟩ := List.exists_cons_of_ne_nil nonempty
  obtain ⟨b, bs, bytes⟩ := List.exists_cons_of_ne_nil (@String.utf8EncodeChar_ne_nil c)
  rw [percentEncode_cons, percentChar]
  split
  · simp
  · simp [bytes, percentByte]

/-- Encoding does not bring slashes into a text. -/
theorem slash_not_mem_percentEncode (absent : '/' ∉ s) : '/' ∉ percentEncode encoded s := by
  have digit : ∀ n : Fin 16, '/' ≠ upperHexDigit n.val := by decide
  intro mem
  obtain ⟨c, within, mem⟩ := List.mem_flatMap.1 mem
  rw [percentChar] at mem
  split at mem
  · obtain rfl := List.mem_singleton.1 mem
    exact absent within
  · obtain ⟨b, -, mem⟩ := List.mem_flatMap.1 mem
    have bound := b.toNat_lt
    have high := digit ⟨b.toNat / 16, by omega⟩
    have low := digit ⟨b.toNat % 16, by omega⟩
    simp [percentByte, high, low] at mem

/-- A hexadecimal digit at the head of an encoded text was there before. -/
theorem of_percentEncode_eq_cons (digit : (hexValue? c).isSome) (e : percentEncode encoded s = c :: t) :
    ∃ r, s = c :: r ∧ percentEncode encoded r = t := by
  cases s with
  | nil => cases e
  | cons d r =>
    rw [percentEncode_cons, percentChar] at e
    split at e
    · obtain ⟨rfl, rest⟩ := List.cons.inj e
      exact ⟨r, rfl, rest⟩
    · obtain ⟨b, bs, bytes⟩ := List.exists_cons_of_ne_nil (@String.utf8EncodeChar_ne_nil d)
      rw [bytes, List.flatMap_cons, percentByte] at e
      obtain ⟨rfl, -⟩ := List.cons.inj e
      cases digit

/-- Two of them as well. -/
theorem of_percentEncode_eq_pair {a b : Char} (first : (hexValue? a).isSome) (second : (hexValue? b).isSome)
    (e : percentEncode encoded s = a :: b :: t) : ∃ r, s = a :: b :: r := by
  obtain ⟨r, rfl, rest⟩ := of_percentEncode_eq_cons first e
  obtain ⟨r, rfl, -⟩ := of_percentEncode_eq_cons second rest
  exact ⟨r, rfl⟩

/-- **What an encoded text decodes to** is what the text itself does. -/
theorem percentDecode_percentEncode (spares : Spares encoded) (s : List Char) :
    percentDecode (percentEncode encoded s) = percentDecode s := by
  fun_induction percentDecode s with
  | case1 => rfl
  | case2 a b r x y second first ih =>
    have hexA := spares.digits a (by simp [first])
    have hexB := spares.digits b (by simp [second])
    simp only [percentEncode_cons, percentChar_of_stays spares.percent, percentChar_of_stays hexA,
      percentChar_of_stays hexB, List.singleton_append]
    rw [percentDecode_escape first second, ih]
  | case3 a b r differs ih =>
    rw [percentEncode_cons, percentChar_of_stays spares.percent, List.singleton_append, percentDecode_percent, ih]
    rintro a' b' t e ⟨first, second⟩
    obtain ⟨t, same⟩ := of_percentEncode_eq_pair first second e
    simp only [List.cons.injEq] at same
    obtain ⟨rfl, rfl, rfl⟩ := same
    obtain ⟨x, first⟩ := Option.isSome_iff_exists.1 first
    obtain ⟨y, second⟩ := Option.isSome_iff_exists.1 second
    exact differs x y first second
  | case4 c r other ih =>
    by_cases sign : c = '%'
    · subst sign
      rw [percentEncode_cons, percentChar_of_stays spares.percent, List.singleton_append, percentDecode_percent, ih]
      · rfl
      · rintro a b t e ⟨first, second⟩
        obtain ⟨t, same⟩ := of_percentEncode_eq_pair first second e
        exact other a b t rfl same
    · rw [percentEncode_cons, percentChar]
      split
      · rw [List.singleton_append, percentDecode_cons sign, ih]
      · rw [percentDecode_percentBytes, ih]

end

end Lookout.Url
