import Lookout.Proofs.Address.Reading

/-!
# Addresses as literals

An IPv4 address is read from its own text and from no other. What an IPv6 address is read from consists of hexadecimal
digits, points, and two colons at least.
-/

namespace Lookout.Address
set_option autoImplicit false
open Text

/-! ### IPv4 -/

theorem readOctet_eq_some_iff {s : List Char} {o : UInt8} : readOctet s = some o ↔ s = Nat.toDigits 10 o.toNat := by
  refine ⟨fun read => ?_, fun text => text ▸ readOctet_toDigits o⟩
  unfold readOctet at read
  split at read
  · cases read
  · next short =>
    split at read
    · next numeric =>
      rw [List.all_eq_true] at numeric
      have nonempty : s ≠ [] := by
        rintro rfl
        cases read
      rw [readNat_of_digits numeric nonempty] at read
      by_cases small : Nat.ofDigitChars 10 s 0 ≤ 255
      · rw [if_pos small] at read
        obtain rfl := Option.some.inj read
        have value : (Nat.ofDigitChars 10 s 0).toUInt8.toNat = Nat.ofDigitChars 10 s 0 := Nat.mod_eq_of_lt (by omega)
        rw [value, toDigits_ofDigitChars numeric nonempty]
        rintro r rfl
        cases r with
        | nil => rfl
        | cons d r => exact absurd rfl (short d r)
      · rw [if_neg small] at read
        cases read
    · cases read

/-- **An IPv4 address is read from its text alone.** -/
theorem readV4_eq_some_iff {s : List Char} {octets : Vector UInt8 4} : readV4 s = some octets ↔ s = textV4 octets := by
  refine ⟨fun read => ?_, fun text => text ▸ readV4_textV4 octets⟩
  unfold readV4 at read
  split at read
  · next a b c d cut =>
    simp only [Option.bind_eq_bind, Option.bind_eq_some_iff, readOctet_eq_some_iff, Option.pure_def,
      Option.some.injEq] at read
    obtain ⟨w, rfl, x, rfl, y, rfl, z, rfl, rfl⟩ := read
    exact (splitAt_eq_iff.1 cut).2.2
  · cases read

/-! ### IPv6 -/

/-- A character of an address. -/
def LiteralChar (c : Char) : Prop :=
  (hexValue? c).isSome ∨ c = ':' ∨ c = '.'

instance : DecidablePred LiteralChar :=
  inferInstanceAs (DecidablePred fun c => (hexValue? c).isSome = true ∨ c = ':' ∨ c = '.')

theorem LiteralChar.toNat_le {c : Char} (literal : LiteralChar c) : c.toNat ≤ 102 := by
  rcases literal with digit | rfl | rfl
  · unfold hexValue? at digit
    simp only [Bool.and_eq_true, decide_eq_true_eq, Char.le_def, UInt32.le_iff_toNat_le] at digit
    split at digit
    · next numeric =>
      have := isDigit_range numeric
      omega
    · split at digit
      · next lower => exact lower.2
      · split at digit
        · next upper =>
          have : c.toNat ≤ 70 := upper.2
          omega
        · cases digit
  · decide
  · decide

theorem literalChar_of_isDigit {c : Char} (numeric : c.isDigit = true) : LiteralChar c :=
  .inl (by simp [hexValue?, numeric])

/-- The text of an IPv4 address consists of digits and points. -/
theorem digit_or_point_of_mem_textV4 {octets : Vector UInt8 4} : ∀ c ∈ textV4 octets, c.isDigit = true ∨ c = '.' := by
  refine forall_mem_intercalate (by simp) fun q mem c within => .inl ?_
  obtain ⟨o, -, rfl⟩ := List.mem_map.1 mem
  exact isDigit_of_mem_toDigits within

theorem readGroup_chars {s : List Char} {g : UInt16} (read : readGroup s = some g) : ∀ c ∈ s, LiteralChar c := by
  have each : ∀ (s : List Char) (n m : Nat), s.foldlM (fun n c => (hexValue? c).map (n * 16 + ·)) n = some m →
      ∀ c ∈ s, LiteralChar c := by
    intro s
    induction s with
    | nil => simp
    | cons d s ih =>
      intro n m read c mem
      rw [List.foldlM_cons] at read
      obtain ⟨k, first, rest⟩ := Option.bind_eq_some_iff.1 read
      obtain ⟨v, value, -⟩ := Option.map_eq_some_iff.1 first
      rcases List.mem_cons.1 mem with rfl | later
      · exact .inl (by simp [value])
      · exact ih k m rest c later
  unfold readGroup at read
  split at read
  · cases read
  · obtain ⟨m, digits, -⟩ := Option.map_eq_some_iff.1 read
    exact each s 0 m digits

/-- Groups are read from as many parts, or from one part less if the last is an IPv4 address. -/
theorem readGroups_parts {allowV4 : Bool} {parts : List (List Char)} {gs : List UInt16}
    (read : readGroups allowV4 parts = some gs) :
    gs.length ≤ parts.length + 1 ∧ ∀ p ∈ parts, ∀ c ∈ p, LiteralChar c := by
  fun_induction readGroups allowV4 parts generalizing gs with
  | case1 =>
    obtain rfl := Option.some.inj read
    simp
  | case2 last embedded =>
    obtain ⟨octets, v4, rfl⟩ := Option.map_eq_some_iff.1 read
    rw [readV4_eq_some_iff] at v4
    refine ⟨by simp [groupsOfV4], ?_⟩
    rintro p mem c within
    obtain rfl := List.mem_singleton.1 mem
    rw [v4] at within
    rcases digit_or_point_of_mem_textV4 c within with numeric | point
    · exact literalChar_of_isDigit numeric
    · exact .inr (.inr point)
  | case3 last plain =>
    obtain ⟨g, group, rfl⟩ := Option.map_eq_some_iff.1 read
    refine ⟨by simp, ?_⟩
    rintro p mem
    obtain rfl := List.mem_singleton.1 mem
    exact readGroup_chars group
  | case4 first rest more ih =>
    simp only [Option.bind_eq_bind, Option.bind_eq_some_iff, Option.pure_def, Option.some.injEq] at read
    obtain ⟨g, group, gs, others, rfl⟩ := read
    obtain ⟨fewer, chars⟩ := ih others
    refine ⟨by simpa using fewer, ?_⟩
    intro p mem
    rcases List.mem_cons.1 mem with rfl | later
    · exact readGroup_chars group
    · exact chars p later

theorem readSide_chars {allowV4 : Bool} {s : List Char} {gs : List UInt16} (read : readSide allowV4 s = some gs) :
    ∀ c ∈ s, LiteralChar c := by
  unfold readSide at read
  split at read
  · next empty => simp_all
  · have joined := (splitAt_eq_iff.1 (rfl : splitAt ':' s = splitAt ':' s)).2.2
    rw [joined]
    exact forall_mem_intercalate (by simp [LiteralChar]) (readGroups_parts read).2

/-- **What an IPv6 address is read from** are characters of addresses, with two colons among them at least. -/
theorem readV6_chars {s : List Char} {groups : Vector UInt16 8} (read : readV6 s = some groups) :
    (∀ c ∈ s, LiteralChar c) ∧ ∃ a b, s = a ++ ':' :: b ∧ ':' ∉ a ∧ ':' ∈ b := by
  have joined : [':', ':'].intercalate (pieces [':', ':'] s) = s := intercalate_pieces (by simp) s
  unfold readV6 at read
  split at read
  · next whole cut =>
    rw [cut, List.intercalate_singleton] at joined
    subst joined
    split at read
    · cases read
    · obtain ⟨gs, groups, eight⟩ := Option.bind_eq_some_iff.1 read
      obtain ⟨many, chars⟩ := readGroups_parts groups
      have length : gs.length = 8 := by
        unfold ofGroups? at eight
        split at eight
        · assumption
        · cases eight
      obtain ⟨-, noColon, text⟩ := splitAt_eq_iff.1 (rfl : splitAt ':' whole = splitAt ':' whole)
      refine ⟨text ▸ forall_mem_intercalate (by simp [LiteralChar]) chars, ?_⟩
      match parts : splitAt ':' whole with
      | p :: q :: r :: rest =>
        rw [parts] at noColon text
        exact ⟨p, [':'].intercalate (q :: r :: rest), by simpa using text, noColon p (by simp), by simp⟩
      | [] | [p] | [p, q] =>
        rw [parts] at many
        simp [length] at many
  · next before after cut =>
    rw [cut] at joined
    simp only [Option.bind_eq_bind, Option.bind_eq_some_iff] at read
    obtain ⟨front, first, back, last, -⟩ := read
    have text : s = before ++ ':' :: ':' :: after := by simpa using joined.symm
    have chars : ∀ c ∈ s, LiteralChar c := by
      intro c mem
      have parts : c ∈ before ∨ c = ':' ∨ c ∈ after := by simpa [text] using mem
      rcases parts with here | colon | there
      · exact readSide_chars first c here
      · exact .inr (.inl colon)
      · exact readSide_chars last c there
    refine ⟨chars, ?_⟩
    obtain ⟨a, b, split, noColon⟩ := List.eq_append_cons_of_mem (by simp [text] : ':' ∈ s)
    refine ⟨a, b, split, noColon, ?_⟩
    by_contra single
    have twice := congrArg (List.count ':') (text.symm.trans split)
    simp only [List.count_append, List.count_cons_self, List.count_eq_zero.2 noColon, List.count_eq_zero.2 single]
      at twice
    omega
  · cases read

end Lookout.Address
