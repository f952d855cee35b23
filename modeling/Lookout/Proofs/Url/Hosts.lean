import Lookout.Url.Host
import Lookout.Proofs.Address.Literals
import Lookout.Proofs.Json.Numerals
import Lookout.Proofs.Url.Percent

/-!
# Hosts of special URLs

The name of a host is plain. A plain text is read as the host of that name in lower case, and the text of an IPv4
address, and an IPv6 address in brackets, as that address.
-/

namespace Lookout.Url
set_option autoImplicit false
open Text DomainName

/-! ### Percent encoding -/

/-- Without a percent sign nothing is decoded. -/
theorem percentDecode_of_not_mem {s : List Char} (absent : '%' ∉ s) :
    percentDecode s = s.flatMap String.utf8EncodeChar := by
  refine percentDecode_of_not_hasEscape ?_
  rintro ⟨a, b, -, -, occurs⟩
  exact absent (occurs.subset (by simp))

theorem ofBytes?_percentDecode {s : List Char} (absent : '%' ∉ s) :
    ofBytes? (percentDecode s) = toAscii? s := by
  rw [percentDecode_of_not_mem absent, ← Payload.ofText_ofList, ofBytes?, Payload.text?_ofText, Option.bind_some,
    String.toList_ofList]

namespace Host

/-! ### Names -/

/-- What is in brackets is no name. -/
theorem readBracketed_ne_name (s n : List Char) : readBracketed s ≠ .ok (.name n) := by
  intro read
  unfold readBracketed at read
  split at read
  · split at read
    · cases read
    · cases read
  · cases read

/-- The name of a host is plain. -/
theorem plain_of_ofDomain {s n : List Char} (read : ofDomain s = .ok (.name n)) : Plain n := by
  unfold ofDomain at read
  split at read
  · exact absurd read (readBracketed_ne_name _ n)
  · split at read
    · cases read
    · cases read
    · next domain _ known =>
      obtain ⟨text, -, ascii⟩ := Option.bind_eq_some_iff.1 known
      split at read
      · split at read
        · cases read
        · cases read
      · obtain rfl : domain = n := by simpa using read
        exact toAscii?_plain ascii

/-- A plain text is read by its ASCII form. -/
theorem ofDomain_of_plain {s : List Char} (plain : Plain s) : ofDomain s =
    match toAscii? s with
    | none => .error .invalidDomainName
    | some [] => .error .emptyHost
    | some domain =>
      if endsInNumber domain then
        match readV4 domain with
        | some octets => .ok (.address (.v4 octets))
        | none => .error .invalidIpv4
      else .ok (.name domain) := by
  have absent : '%' ∉ s := plain.not_mem (by decide)
  unfold ofDomain
  split
  · next r => exact absurd List.mem_cons_self (plain.not_mem (by decide))
  · cases known : toAscii? s with
    | none => simp only [ofBytes?_percentDecode absent, known]
    | some domain =>
      cases domain with
      | nil => simp only [ofBytes?_percentDecode absent, known]
      | cons c domain =>
        cases number : endsInNumber (c :: domain) with
        | false => simp [ofBytes?_percentDecode absent, known, number]
        | true =>
          cases octets : readV4 (c :: domain) with
          | none => simp [ofBytes?_percentDecode absent, known, number, octets]
          | some o => simp [ofBytes?_percentDecode absent, known, number, octets]

/-- A plain text is read as a name, if its labels fit and it does not end in a number. -/
theorem ofDomain_eq_name_iff {s n : List Char} (plain : Plain s) : ofDomain s = .ok (.name n) ↔
    s ≠ [] ∧ LabelsFit (s.map Char.toLower) ∧ endsInNumber (s.map Char.toLower) = false ∧ n = s.map Char.toLower := by
  rw [ofDomain_of_plain plain]
  constructor
  · intro read
    split at read
    · cases read
    · cases read
    · next domain filled known =>
      obtain ⟨fit, rfl⟩ := (toAscii?_eq_some_iff plain).1 known
      have nonempty : s ≠ [] := by
        rintro rfl
        exact filled rfl
      split at read
      · split at read
        · cases read
        · cases read
      · next word => exact ⟨nonempty, fit, by simpa using word, by simpa using read.symm⟩
  · rintro ⟨nonempty, fit, word, rfl⟩
    have known := (toAscii?_eq_some_iff plain).2 ⟨fit, rfl⟩
    obtain ⟨c, r, e⟩ := List.exists_cons_of_ne_nil (l := s.map Char.toLower) (by simpa using nonempty)
    rw [e] at known word ⊢
    rw [known]
    simp [word]

theorem digitless_of_letter {c : Char} (letter : c.isAlpha = true) :
    c.isDigit = false ∧ c ≠ '0' ∧ (hexValue? c).all (10 ≤ ·) = true := by
  have small : isAscii c = true := isAscii_of_isAlphanum (by simp [Char.isAlphanum, letter])
  have all : c.isAlpha = true → c.isDigit = false ∧ c ≠ '0' ∧ (hexValue? c).all (10 ≤ ·) = true :=
    ascii_induction
      (motive := fun c => c.isAlpha = true → c.isDigit = false ∧ c ≠ '0' ∧ (hexValue? c).all (10 ≤ ·) = true)
      (by decide +kernel) small
  exact all letter

/-- No number begins with a letter. -/
theorem endsInNumber_of_letter {s r : List Char} {c : Char} (last : (nameParts s).getLast? = some (c :: r))
    (letter : c.isAlpha = true) : endsInNumber s = false := by
  obtain ⟨digit, zero, large⟩ := digitless_of_letter letter
  have number : readV4Part (c :: r) = none := by
    have decimal : readV4Part (c :: r) = readRadix 10 (c :: r) := by
      unfold readV4Part
      split
      · next e => cases e
      · next e => exact absurd (List.cons.inj e).1 zero
      · next e => exact absurd (List.cons.inj e).1 zero
      · next e => exact absurd (List.cons.inj e).1 zero
      · rfl
    rw [decimal, readRadix, List.foldlM_cons]
    cases value : hexValue? c with
    | none => rfl
    | some d =>
      have large : 10 ≤ d := by simpa [value] using large
      simp [Nat.not_lt.2 large]
  rw [endsInNumber, last]
  simp [digit, number]

theorem nameParts_toLower (s : List Char) :
    nameParts (s.map Char.toLower) = (nameParts s).map (List.map Char.toLower) := by
  rw [nameParts, nameParts, splitAt_map toLower_eq_stop_iff]
  generalize splitAt '.' s = parts
  have empty : (parts.map (List.map Char.toLower)).getLast? = some [] ↔ parts.getLast? = some [] := by
    simp [List.getLast?_map]
  simp only [beq_iff_eq, empty]
  split
  · rw [List.map_dropLast]
  · rfl

/-! ### Addresses -/

theorem readV4Part_octet_val : ∀ n : Fin 256, readV4Part (Nat.toDigits 10 n.val) = some n.val := by
  decide +kernel

theorem readV4Part_octet (o : UInt8) : readV4Part (Nat.toDigits 10 o.toNat) = some o.toNat :=
  readV4Part_octet_val ⟨o.toNat, o.toNat_lt⟩

/-- The octets of the number that they are the digits of. -/
theorem octets_of_value (a b c d : UInt8) :
    ((a.toNat * 16777216 + b.toNat * 65536 + c.toNat * 256 + d.toNat) / 16777216).toUInt8 = a ∧
    ((a.toNat * 16777216 + b.toNat * 65536 + c.toNat * 256 + d.toNat) / 65536).toUInt8 = b ∧
    ((a.toNat * 16777216 + b.toNat * 65536 + c.toNat * 256 + d.toNat) / 256).toUInt8 = c ∧
    (a.toNat * 16777216 + b.toNat * 65536 + c.toNat * 256 + d.toNat).toUInt8 = d := by
  have ha := a.toNat_lt
  have hb := b.toNat_lt
  have hc := c.toNat_lt
  have hd := d.toNat_lt
  have octet : ∀ (n : Nat) (o : UInt8), n % 256 = o.toNat → n.toUInt8 = o := fun n o same => UInt8.toNat_inj.1 same
  exact ⟨octet _ a (by omega), octet _ b (by omega), octet _ c (by omega), octet _ d (by omega)⟩

/-- Octets are put together to the address that they are of. -/
theorem assembleV4_octets (a b c d : UInt8) :
    assembleV4 [a.toNat, b.toNat, c.toNat] d.toNat = some #v[a, b, c, d] := by
  have ha := a.toNat_lt
  have hb := b.toNat_lt
  have hc := c.toNat_lt
  have hd := d.toNat_lt
  have fits : ([a.toNat, b.toNat, c.toNat].all (· ≤ 255) && [a.toNat, b.toNat, c.toNat].length ≤ 3 &&
      d.toNat < Nat.pow 256 (4 - [a.toNat, b.toNat, c.toNat].length)) = true := by
    simp
    omega
  have value : ([a.toNat, b.toNat, c.toNat].zipIdx.map fun p => p.1 * Nat.pow 256 (3 - p.2)).foldr (· + ·) 0 + d.toNat =
      a.toNat * 16777216 + b.toNat * 65536 + c.toNat * 256 + d.toNat := by
    simp
    omega
  have same : ∀ {w x y z : UInt8}, w = a → x = b → y = c → z = d → some #v[w, x, y, z] = some #v[a, b, c, d] := by
    rintro w x y z rfl rfl rfl rfl
    rfl
  obtain ⟨first, second, third, fourth⟩ := octets_of_value a b c d
  rw [assembleV4, if_pos fits]
  apply same
  · rw [value]
    exact first
  · rw [value]
    exact second
  · rw [value]
    exact third
  · rw [value]
    exact fourth

theorem nameParts_textV4 (octets : Vector UInt8 4) :
    nameParts (Address.textV4 octets) = octets.toList.map fun o => Nat.toDigits 10 o.toNat := by
  rw [nameParts, Address.splitAt_textV4]
  simp

theorem readV4_textV4 (octets : Vector UInt8 4) : readV4 (Address.textV4 octets) = some octets := by
  obtain ⟨a, b, c, d, rfl⟩ := Address.exists_octets octets
  rw [readV4, nameParts_textV4]
  simp [readV4Part_octet, assembleV4_octets]

theorem endsInNumber_textV4 (octets : Vector UInt8 4) : endsInNumber (Address.textV4 octets) = true := by
  obtain ⟨a, b, c, d, rfl⟩ := Address.exists_octets octets
  rw [endsInNumber, nameParts_textV4]
  simp [readV4Part_octet]

theorem textV4_ne_nil (octets : Vector UInt8 4) : Address.textV4 octets ≠ [] := by
  intro empty
  have number := endsInNumber_textV4 octets
  rw [empty] at number
  cases number

theorem digit_or_point_plain {c : Char} (h : c.isDigit = true ∨ c = '.') :
    isAscii c = true ∧ DomainName.isForbidden c = false ∧ c.toLower = c := by
  have small : isAscii c = true := by
    rcases h with numeric | rfl
    · have range := isDigit_range numeric
      simp only [isAscii, decide_eq_true_eq]
      omega
    · decide
  have all : c.isDigit = true ∨ c = '.' → DomainName.isForbidden c = false ∧ c.toLower = c :=
    ascii_induction (motive := fun c => c.isDigit = true ∨ c = '.' → DomainName.isForbidden c = false ∧ c.toLower = c)
      (by decide +kernel) small
  exact ⟨small, all h⟩

theorem plain_textV4 (octets : Vector UInt8 4) : Plain (Address.textV4 octets) := by
  intro c mem
  obtain ⟨ascii, allowed, -⟩ := digit_or_point_plain (Address.digit_or_point_of_mem_textV4 c mem)
  exact ⟨ascii, allowed⟩

theorem map_toLower_textV4 (octets : Vector UInt8 4) :
    (Address.textV4 octets).map Char.toLower = Address.textV4 octets := by
  conv_rhs => rw [← List.map_id (Address.textV4 octets)]
  refine List.map_congr_left fun c mem => ?_
  exact (digit_or_point_plain (Address.digit_or_point_of_mem_textV4 c mem)).2.2

theorem labelsFit_textV4 (octets : Vector UInt8 4) : LabelsFit (Address.textV4 octets) := by
  refine labelsFit_of_unmarked (fun c mem => (plain_textV4 octets c mem).1) ?_
  rintro label mem ⟨code, rfl⟩
  rw [Address.splitAt_textV4] at mem
  obtain ⟨o, -, digits⟩ := List.mem_map.1 mem
  have first : 'x' ∈ Nat.toDigits 10 o.toNat := by simp [digits, punycodeMark]
  have numeric : 'x'.isDigit = true := isDigit_of_mem_toDigits first
  cases numeric

/-- The text of an IPv4 address is read as that address. -/
theorem ofDomain_textV4 (octets : Vector UInt8 4) : ofDomain (Address.textV4 octets) = .ok (.address (.v4 octets)) := by
  have plain := plain_textV4 octets
  have lower := map_toLower_textV4 octets
  have known : toAscii? (Address.textV4 octets) = some (Address.textV4 octets) :=
    (toAscii?_eq_some_iff plain).2 ⟨lower.symm ▸ labelsFit_textV4 octets, lower.symm⟩
  have number := endsInNumber_textV4 octets
  have read := readV4_textV4 octets
  obtain ⟨c, r, e⟩ := List.exists_cons_of_ne_nil (textV4_ne_nil octets)
  rw [ofDomain_of_plain plain, known]
  rw [e] at number read ⊢
  simp [number, read]

/-- An IPv6 address in brackets is read as that address. -/
theorem ofDomain_bracketed {s : List Char} {groups : Vector UInt16 8} (read : Address.readV6 s = some groups) :
    ofDomain ('[' :: s ++ [']']) = .ok (.address (.v6 groups)) := by
  simp [ofDomain, readBracketed, read]

end Host

end Lookout.Url
