import Lookout.Address
import Lookout.Proofs.Text.Joining
import Lookout.Proofs.Text.Numerals
import Lookout.Proofs.Text.Occurrence
import Mathlib.Tactic.ByContra

/-!
# Addresses read back

The text of an address is read as that address: octets and groups one by one, and where two colons stand, the zero
groups that they were written for are put in again. So no two addresses have the same text.
-/

namespace Lookout.Address
set_option autoImplicit false
open Text

theorem hexValue?_digitChar : ∀ d < 16, hexValue? (Nat.digitChar d) = some d := by
  decide

/-- Hexadecimal digits are read as the number that they write. -/
theorem foldlM_hexValue?_toDigits (n : Nat) :
    (Nat.toDigits 16 n).foldlM (fun n c => (hexValue? c).map (n * 16 + ·)) 0 = some n := by
  induction n using Nat.strongRecOn with
  | ind n ih =>
    by_cases small : n < 16
    · rw [Nat.toDigits_of_lt_base small]
      simp [hexValue?_digitChar n small]
    · have fewer : n / 16 < n := by omega
      have last := hexValue?_digitChar (n % 16) (by omega)
      rw [Nat.toDigits_of_base_le (by decide) (by omega), List.foldlM_append, ih (n / 16) fewer]
      simp only [Option.bind_eq_bind, Option.bind_some, List.foldlM_cons, List.foldlM_nil, last, Option.map_some]
      exact congrArg some (by omega)

theorem readGroup_toDigits (g : UInt16) : readGroup (Nat.toDigits 16 g.toNat) = some g := by
  have nonempty : (Nat.toDigits 16 g.toNat).isEmpty = false := by simp [Nat.toDigits_ne_nil]
  have short : (Nat.toDigits 16 g.toNat).length ≤ 4 :=
    (Nat.length_toDigits_le_iff (by decide) (by decide)).2 g.toNat_lt
  rw [readGroup, nonempty, foldlM_hexValue?_toDigits]
  simp [Nat.not_lt.2 short]

theorem readOctet_toDigits_val : ∀ n : Fin 256, readOctet (Nat.toDigits 10 n.val) = some n.val.toUInt8 := by
  decide +kernel

theorem readOctet_toDigits (o : UInt8) : readOctet (Nat.toDigits 10 o.toNat) = some o := by
  have read := readOctet_toDigits_val ⟨o.toNat, o.toNat_lt⟩
  simpa using read

/-- What has a colon in it is no octet. -/
theorem readOctet_of_colon {s : List Char} (colon : ':' ∈ s) : readOctet s = none := by
  have other : s.all Char.isDigit = false := by
    rw [List.all_eq_false]
    exact ⟨':', colon, by decide⟩
  unfold readOctet
  split
  · rfl
  · simp [other]

theorem readV4_of_colon {s : List Char} (colon : ':' ∈ s) : readV4 s = none := by
  have joined := (splitAt_eq_iff (c := '.')).1 (rfl : splitAt '.' s = splitAt '.' s)
  obtain ⟨p, mem, within⟩ : ∃ p ∈ splitAt '.' s, ':' ∈ p := by
    by_contra apart
    push Not at apart
    exact not_mem_intercalate (by decide) apart (joined.2.2 ▸ colon)
  have failed := readOctet_of_colon within
  unfold readV4
  split
  · next a b c d cut =>
    rw [cut] at mem
    simp only [List.mem_cons, List.not_mem_nil, or_false] at mem
    rcases mem with rfl | rfl | rfl | rfl
    · simp [failed]
    · cases readOctet a <;> simp [failed]
    · cases readOctet a <;> cases readOctet b <;> simp [failed]
    · cases readOctet a <;> cases readOctet b <;> cases readOctet c <;> simp [failed]
  · rfl

theorem exists_octets (octets : Vector UInt8 4) : ∃ a b c d, octets = #v[a, b, c, d] := by
  obtain ⟨⟨l⟩, size⟩ := octets
  match l, size with
  | [a, b, c, d], _ => exact ⟨a, b, c, d, rfl⟩

theorem splitAt_textV4 (octets : Vector UInt8 4) :
    splitAt '.' (textV4 octets) = octets.toList.map fun o => Nat.toDigits 10 o.toNat := by
  obtain ⟨a, b, c, d, rfl⟩ := exists_octets octets
  refine splitAt_eq_iff.2 ⟨by simp, ?_, rfl⟩
  intro p mem
  obtain ⟨o, -, rfl⟩ := List.mem_map.1 mem
  exact not_mem_toDigits (by decide) (by decide) (by decide) _

theorem readV4_textV4 (octets : Vector UInt8 4) : readV4 (textV4 octets) = some octets := by
  obtain ⟨a, b, c, d, rfl⟩ := exists_octets octets
  rw [readV4, splitAt_textV4]
  simp [readOctet_toDigits]

theorem readGroups_map (allowV4 : Bool) (gs : List UInt16) :
    readGroups allowV4 (gs.map fun g => Nat.toDigits 16 g.toNat) = some gs := by
  induction gs with
  | nil => rfl
  | cons g gs ih =>
    cases gs with
    | nil =>
      have plain := @not_mem_toDigits 16 '.' (by decide) (by decide) (by decide) g.toNat
      simp [readGroups, plain, readGroup_toDigits]
    | cons h gs =>
      rw [List.map_cons] at ih
      rw [List.map_cons, List.map_cons, readGroups, ih, readGroup_toDigits]
      · rfl
      · simp

theorem splitAt_textGroups {gs : List UInt16} (nonempty : gs ≠ []) :
    splitAt ':' (textGroups gs) = gs.map fun g => Nat.toDigits 16 g.toNat := by
  refine splitAt_eq_iff.2 ⟨by simpa using nonempty, ?_, rfl⟩
  intro p mem
  obtain ⟨g, -, rfl⟩ := List.mem_map.1 mem
  exact not_mem_toDigits (by decide) (by decide) (by decide) _

theorem nil_not_mem_splitAt_textGroups {gs : List UInt16} (nonempty : gs ≠ []) : [] ∉ splitAt ':' (textGroups gs) := by
  rw [splitAt_textGroups nonempty]
  intro mem
  obtain ⟨g, -, empty⟩ := List.mem_map.1 mem
  exact Nat.toDigits_ne_nil empty

theorem textGroups_ne_nil {gs : List UInt16} (nonempty : gs ≠ []) : textGroups gs ≠ [] := by
  intro empty
  have filled := nil_not_mem_splitAt_textGroups nonempty
  simp [empty, splitAt] at filled

theorem readSide_textGroups (allowV4 : Bool) (gs : List UInt16) : readSide allowV4 (textGroups gs) = some gs := by
  by_cases empty : gs = []
  · subst empty
    rfl
  · rw [readSide, if_neg (by simpa using textGroups_ne_nil empty), splitAt_textGroups empty, readGroups_map]

/-- Behind a colon in the text of groups there is another group. -/
theorem group_behind_colon {gs : List UInt16} {a b : List Char} (written : textGroups gs = a ++ ':' :: b) :
    b ≠ [] ∧ ∀ r, b ≠ ':' :: r := by
  have nonempty : gs ≠ [] := by
    rintro rfl
    simp [textGroups] at written
  have filled := nil_not_mem_splitAt_textGroups nonempty
  rw [written, splitAt_append, List.mem_append, not_or] at filled
  constructor
  · rintro rfl
    simp [splitAt] at filled
  · rintro r rfl
    simp [splitAt] at filled

theorem not_colons_prefix {gs : List UInt16} {e : List Char} (nonempty : e ≠ []) (ends : e <:+ textGroups gs)
    (s : List Char) : ¬ [':', ':'] <+: e ++ s := by
  intro begins
  obtain ⟨a, written⟩ := ends
  obtain ⟨c, e, rfl⟩ := List.exists_cons_of_ne_nil nonempty
  obtain ⟨rfl, rest⟩ := List.cons_prefix_cons.1 begins
  obtain ⟨more, other⟩ := group_behind_colon written.symm
  obtain ⟨d, e, rfl⟩ := List.exists_cons_of_ne_nil more
  obtain ⟨rfl, -⟩ := List.cons_prefix_cons.1 rest
  exact other e rfl

theorem pieces_textGroups (gs : List UInt16) : pieces [':', ':'] (textGroups gs) = [textGroups gs] := by
  apply pieces_eq_singleton
  rintro ⟨a, b, written⟩
  have ends : ':' :: ':' :: b <:+ textGroups gs := ⟨a, by simpa using written⟩
  exact not_colons_prefix (by simp) ends [] (by simp)

theorem pieces_colons (front back : List UInt16) :
    pieces [':', ':'] (textGroups front ++ ([':', ':'] ++ textGroups back)) = [textGroups front, textGroups back] := by
  rw [pieces_append_of_absent fun e nonempty ends => not_colons_prefix nonempty ends _, pieces_append_self (by simp),
    pieces_textGroups]
  simp

/-- Zero groups at the head. -/
theorem eq_replicate_append {n : Nat} {gs : List UInt16} (short : n ≤ leadingZeros gs) :
    gs = List.replicate n 0 ++ gs.drop n := by
  have zeros : gs.take n = List.replicate n 0 := by
    have length := (List.takeWhile_prefix (· == 0) (l := gs)).length_le
    have within : gs.take n <+: gs.takeWhile (· == 0) := by
      apply List.prefix_of_prefix_length_le (List.take_prefix n gs) (List.takeWhile_prefix _)
      exact Nat.le_trans (List.length_take_le n gs) short
    apply List.eq_replicate_iff.2
    constructor
    · rw [List.length_take]
      rw [leadingZeros] at short
      omega
    · intro g mem
      simpa using List.mem_takeWhile_imp (within.subset mem)
  rw [← zeros, List.take_append_drop]

/-- Where the longest run is said to be, there are as many zero groups. -/
theorem longestZeros_le (gs : List UInt16) :
    (longestZeros gs).2 ≤ leadingZeros (gs.drop (longestZeros gs).1) := by
  unfold longestZeros
  refine List.foldlRecOn (motive := fun best : Nat × Nat => best.2 ≤ leadingZeros (gs.drop best.1)) _ _ ?_ ?_
  · exact Nat.zero_le _
  · intro best run i _
    split
    · exact Nat.le_refl _
    · exact run

/-- The zero groups left out are put in again. -/
theorem eq_around_longestZeros (gs : List UInt16) :
    gs = gs.take (longestZeros gs).1 ++ List.replicate (longestZeros gs).2 0 ++
      gs.drop ((longestZeros gs).1 + (longestZeros gs).2) := by
  have run := eq_replicate_append (longestZeros_le gs)
  rw [List.drop_drop] at run
  rw [List.append_assoc, ← run, List.take_append_drop]

theorem ofGroups?_toList (groups : Vector UInt16 8) : ofGroups? groups.toList = some groups := by
  simp [ofGroups?, Vector.toList]

theorem readV6_textV6 (groups : Vector UInt16 8) : readV6 (textV6 groups.toList) = some groups := by
  have eight : groups.toList.length = 8 := by simp
  have around := eq_around_longestZeros groups.toList
  unfold textV6
  generalize longestZeros groups.toList = run at around ⊢
  obtain ⟨start, length⟩ := run
  simp only at around ⊢
  split
  · have nonempty : groups.toList ≠ [] := by
      intro empty
      simp [empty] at eight
    rw [readV6, pieces_textGroups]
    simp [textGroups_ne_nil nonempty, splitAt_textGroups nonempty, readGroups_map, ofGroups?_toList]
  · next long =>
    have lengths := congrArg List.length around
    simp only [List.length_append, List.length_replicate] at lengths
    have fewer : (groups.toList.take start).length + (groups.toList.drop (start + length)).length < 8 := by omega
    have missing : 8 - (groups.toList.take start).length - (groups.toList.drop (start + length)).length = length := by
      omega
    rw [readV6, List.append_assoc, pieces_colons]
    simp only [readSide_textGroups, Option.bind_eq_bind, Option.bind_some, if_pos fewer, missing]
    rw [← around, ofGroups?_toList]

/-- Two octets of a group put together again. -/
theorem join_halves (g : UInt16) : (g >>> 8).toUInt8.toUInt16 <<< 8 ||| g.toUInt8.toUInt16 = g := by
  have small : g.toNat < 65536 := g.toNat_lt
  have high : g.toNat >>> 8 % 256 = g.toNat / 256 := by
    rw [Nat.shiftRight_eq_div_pow]
    omega
  have shifted : (g.toNat / 256) <<< 8 % 65536 = (g.toNat / 256) <<< 8 := by
    rw [Nat.shiftLeft_eq]
    omega
  have sum : (g.toNat / 256) <<< 8 ||| g.toNat % 256 = g.toNat := by
    rw [← Nat.shiftLeft_add_eq_or_of_lt (by omega), Nat.shiftLeft_eq]
    omega
  apply UInt16.toNat_inj.1
  simpa [high, shifted] using sum

theorem embedded?_eq_some {groups : Vector UInt16 8} {octets : Vector UInt8 4}
    (found : embedded? groups = some octets) : groups.toList = List.replicate 5 0 ++ 0xFFFF :: groupsOfV4 octets := by
  obtain ⟨⟨l⟩, size⟩ := groups
  match l, size with
  | [a, b, c, d, e, f, g, h], _ =>
    unfold embedded? at found
    split at found
    · next first =>
      obtain rfl := Option.some.inj found
      have last : groupsOfV4 #v[(g >>> 8).toUInt8, g.toUInt8, (h >>> 8).toUInt8, h.toUInt8] = [g, h] :=
        congrArg₂ (fun g h => [g, h]) (join_halves g) (join_halves h)
      have zeros : [a, b, c, d, e, f] = [0, 0, 0, 0, 0, 0xFFFF] := first
      change [a, b, c, d, e, f] ++ [g, h] = _
      rw [zeros]
      exact congrArg ([0, 0, 0, 0, 0, 0xFFFF] ++ ·) last.symm
    · cases found

theorem colon_mem_textV6 (groups : Vector UInt16 8) : ':' ∈ textV6 groups.toList := by
  unfold textV6
  simp only
  split
  · by_contra noColon
    have whole := splitAt_of_not_mem noColon
    have eight : groups.toList.length = 8 := by simp
    have nonempty : groups.toList ≠ [] := by
      intro empty
      simp [empty] at eight
    have parts := congrArg List.length (splitAt_textGroups nonempty)
    rw [whole, List.length_map, eight] at parts
    cases parts
  · simp

/-- The text of an embedded IPv4 address is read as the groups that hold it. -/
theorem readV6_embedded {groups : Vector UInt16 8} {octets : Vector UInt8 4} (found : embedded? groups = some octets) :
    readV6 ("::ffff:".toList ++ textV4 octets) = some groups := by
  have colon : ':' ∉ textV4 octets := by
    refine not_mem_intercalate (by decide) fun p mem => ?_
    obtain ⟨o, -, rfl⟩ := List.mem_map.1 mem
    exact not_mem_toDigits (by decide) (by decide) (by decide) _
  have point : '.' ∈ textV4 octets := by
    obtain ⟨a, b, c, d, rfl⟩ := exists_octets octets
    simp [textV4, List.intercalate]
  have back : readSide true ("ffff:".toList ++ textV4 octets) = some (0xFFFF :: groupsOfV4 octets) := by
    have cut : splitAt ':' ("ffff:".toList ++ textV4 octets) = ["ffff".toList, textV4 octets] := by
      have first := splitAt_append_cons (c := ':') (textV4 octets) (a := "ffff".toList) (by decide)
      rwa [splitAt_of_not_mem colon] at first
    have group : readGroup ['f', 'f', 'f', 'f'] = some 0xFFFF := by decide
    rw [readSide, if_neg (by simp), cut]
    simp [readGroups, group, point, readV4_textV4]
  have once : ¬ [':', ':'] <:+: "ffff:".toList ++ textV4 octets := by
    intro double
    have twice := double.sublist.count_le ':'
    rw [List.count_append, List.count_eq_zero.2 colon] at twice
    exact absurd twice (by decide)
  have cut : pieces [':', ':'] ("::ffff:".toList ++ textV4 octets) = [[], "ffff:".toList ++ textV4 octets] := by
    have first : pieces [':', ':'] ([':', ':'] ++ ("ffff:".toList ++ textV4 octets)) = _ :=
      pieces_append_self (by simp) _
    rwa [pieces_eq_singleton once] at first
  have front : readSide false [] = some [] := rfl
  have fewer : ([] : List UInt16).length + (0xFFFF :: groupsOfV4 octets).length < 8 := by simp [groupsOfV4]
  rw [readV6, cut]
  simp only [front, back, Option.bind_eq_bind, Option.bind_some, if_pos fewer]
  rw [← ofGroups?_toList groups, embedded?_eq_some found]
  rfl

theorem ofChars?_chars (a : Address) : ofChars? a.chars = some a := by
  cases a with
  | v4 octets => rw [ofChars?, chars, readV4_textV4]
  | v6 groups =>
    have read : readV6 (v6 groups).chars = some groups ∧ ':' ∈ (v6 groups).chars := by
      simp only [chars]
      split
      · next octets found => exact ⟨readV6_embedded found, by simp⟩
      · exact ⟨readV6_textV6 groups, colon_mem_textV6 groups⟩
    rw [ofChars?, readV4_of_colon read.2, read.1]
    rfl

/-- **An address is read again from its text.** -/
theorem ofText?_text (a : Address) : ofText? a.text = some a := by
  rw [ofText?, text, String.toList_ofList, ofChars?_chars]

/-- No two addresses have the same text. -/
theorem text_injective : Function.Injective text := by
  intro a b same
  have read := ofText?_text a
  rw [same, ofText?_text] at read
  exact (Option.some.inj read).symm

end Lookout.Address
