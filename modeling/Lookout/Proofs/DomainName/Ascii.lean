import Lookout.DomainName
import Lookout.Proofs.Text.Joining
import Lookout.Proofs.Text.Numerals

/-!
# Domain names in ASCII

The tables of characters leave ASCII as it is but for its capitals, and what they make of any name is ASCII. So a name
in ASCII is its own ASCII form in lower case, if each of its labels in Punycode stands for a label.
-/

namespace Lookout.DomainName
set_option autoImplicit false
open Text

/-! ### Tables -/

theorem combiningClasses_beyond : ∀ r ∈ combiningClasses, 0x80 ≤ r.1 := by
  decide +kernel

theorem compositions_beyond : ∀ r ∈ compositions, 0x80 ≤ r.1 ∧ ∀ p ∈ r.2, 0x80 ≤ p.2 := by
  decide +kernel

section
variable {n : Nat}

theorem combiningClass_ascii (ascii : n < 0x80) : combiningClass n = 0 := by
  have absent : combiningClasses.find? (fun r => r.1 ≤ n && n ≤ r.2.1) = none := by
    rw [List.find?_eq_none]
    intro r mem
    have := combiningClasses_beyond r mem
    simp only [Bool.and_eq_true, decide_eq_true_eq]
    omega
  rw [combiningClass, absent]

theorem decompose?_ascii (ascii : n < 0x80) : decompose? n = none := by
  rw [decompose?, List.findSome?_eq_none_iff]
  intro r mem
  have absent : r.2.find? (·.2 == n) = none := by
    rw [List.find?_eq_none]
    intro p within
    have := (compositions_beyond r mem).2 p within
    simp only [beq_iff_eq]
    omega
  rw [absent, Option.map_none]

theorem decomposed_ascii (depth : Nat) (ascii : n < 0x80) : decomposed depth n = [n] := by
  cases depth with
  | zero => rfl
  | succ depth => rw [decomposed, decompose?_ascii ascii]

/-- Nothing is composed with an ASCII character after it. -/
theorem compose?_ascii (a : Nat) (ascii : n < 0x80) : compose? a n = none := by
  have hangul : composeHangul? a n = none := by
    rw [composeHangul?, if_neg, if_neg]
    · simp only [Bool.and_eq_true, decide_eq_true_eq]
      omega
    · simp only [Bool.and_eq_true, decide_eq_true_eq]
      omega
  have absent : compositions.lookup n = none := by
    rw [List.lookup_eq_none_iff]
    intro r mem
    have := (compositions_beyond r mem).1
    simp only [bne_iff_ne]
    omega
  rw [compose?, hangul, absent]
  rfl

end

theorem ordered_ascii {points : List Nat} (ascii : ∀ n ∈ points, n < 0x80) : ordered points = points := by
  have fold : ∀ out, points.foldl (fun out n => insertByClass n out) out = points.reverse ++ out := by
    induction points with
    | nil => simp
    | cons n points ih =>
      intro out
      have first : insertByClass n out = n :: out := by
        cases out with
        | nil => rfl
        | cons p out => simp [insertByClass, combiningClass_ascii (ascii n (by simp))]
      rw [List.foldl_cons, first, ih fun m mem => ascii m (by simp [mem])]
      simp
  rw [ordered, fold, List.append_nil, List.reverse_reverse]

theorem composeFrom_ascii {points : List Nat} (start : Nat) (ascii : ∀ n ∈ points, n < 0x80) :
    composeFrom start [] points = start :: points := by
  induction points generalizing start with
  | nil => rfl
  | cons n points ih =>
    have here : n < 0x80 := ascii n (by simp)
    rw [composeFrom, ih n fun m mem => ascii m (by simp [mem])]
    simp [compose?_ascii start here, combiningClass_ascii here]

section
variable {s : List Char}

/-- Text in ASCII is composed. -/
theorem composed_ascii (ascii : ∀ c ∈ s, isAscii c = true) : composed s = s := by
  simp only [isAscii, decide_eq_true_eq] at ascii
  have points : s.flatMap (fun c => decomposed maxMarks c.toNat) = s.map Char.toNat := by
    induction s with
    | nil => rfl
    | cons c s ih =>
      rw [List.flatMap_cons, decomposed_ascii maxMarks (ascii c (by simp)), ih fun d mem => ascii d (by simp [mem])]
      rfl
  have small : ∀ n ∈ s.map Char.toNat, n < 0x80 := by simpa using ascii
  rw [composed, points, ordered_ascii small]
  cases s with
  | nil => rfl
  | cons c s =>
    have rest : ∀ n ∈ s.map Char.toNat, n < 0x80 := fun n mem => small n (List.mem_cons_of_mem _ mem)
    have back : Char.ofNat ∘ Char.toNat = id := funext Char.ofNat_toNat
    simp only [List.map_cons]
    rw [composeFrom_ascii c.toNat rest, List.map_cons, List.map_map, back, List.map_id, Char.ofNat_toNat]

/-- The tables make lower case of ASCII. -/
theorem mapM_mapChar_ascii (ascii : ∀ c ∈ s, isAscii c = true) :
    s.mapM mapChar = some (s.map fun c => [c.toLower]) := by
  simp only [isAscii, decide_eq_true_eq] at ascii
  induction s with
  | nil => rfl
  | cons c s ih =>
    have first : mapChar c = some [c.toLower] := by simp [mapChar, ascii c (by simp)]
    rw [List.mapM_cons, first, ih fun d mem => ascii d (by simp [mem])]
    rfl

end

/-! ### Characters and labels -/

/-- What is checked for 128 numbers holds of ASCII characters. -/
theorem ascii_induction {motive : Char → Prop} (all : ∀ n : Fin 128, motive (Char.ofNat n.val)) {c : Char}
    (ascii : isAscii c = true) : motive c := by
  have checked := all ⟨c.toNat, by simpa [isAscii] using ascii⟩
  rwa [Char.ofNat_toNat] at checked

theorem toLower_of_not_ascii {c : Char} (other : isAscii c = false) : c.toLower = c := by
  apply dif_neg
  rintro ⟨-, upper⟩
  have upper : c.toNat ≤ 90 := upper
  simp only [isAscii, decide_eq_false_iff_not] at other
  omega

@[simp] theorem isAscii_toLower (c : Char) : isAscii c.toLower = isAscii c := by
  by_cases ascii : isAscii c = true
  · exact ascii_induction (motive := fun c => isAscii c.toLower = isAscii c) (by decide +kernel) ascii
  · rw [toLower_of_not_ascii (by simpa using ascii)]

@[simp] theorem isForbidden_toLower (c : Char) : isForbidden c.toLower = isForbidden c := by
  by_cases ascii : isAscii c = true
  · exact ascii_induction (motive := fun c => isForbidden c.toLower = isForbidden c) (by decide +kernel) ascii
  · rw [toLower_of_not_ascii (by simpa using ascii)]

theorem isAscii_of_isAlphanum {c : Char} (h : c.isAlphanum = true) : isAscii c = true := by
  have range := isAlphanum_range h
  simp only [isAscii, decide_eq_true_eq]
  omega

/-- Only a full stop becomes one. -/
theorem toLower_eq_stop_iff (c : Char) : c.toLower = '.' ↔ c = '.' := by
  by_cases ascii : isAscii c = true
  · exact ascii_induction (motive := fun c => c.toLower = '.' ↔ c = '.') (by decide +kernel) ascii
  · rw [toLower_of_not_ascii (by simpa using ascii)]

theorem isRightToLeft_ascii {c : Char} (ascii : isAscii c = true) : isRightToLeft c = false :=
  ascii_induction (motive := fun c => isRightToLeft c = false) (by decide +kernel) ascii

/-- A label in ASCII is its own ASCII form, in Punycode or not. -/
theorem asciiLabel_of_unicodeLabel? {label read : List Char} (ascii : label.all isAscii = true)
    (known : unicodeLabel? label = some read) : asciiLabel read = label := by
  unfold unicodeLabel? at known
  split at known
  · next code begins =>
    split at known
    · next decoded =>
      split at known
      · next valid =>
        obtain rfl := Option.some.inj known
        simp only [Bool.and_eq_true, Bool.not_eq_true', beq_iff_eq] at valid
        obtain ⟨⟨⟨-, other⟩, -⟩, same⟩ := valid
        rw [asciiLabel, if_neg (by simp [other]), same]
        exact (List.isPrefixOf?_eq_some_iff_append_eq.1 begins)
      · cases known
    · cases known
  · rw [ascii, Bool.true_or, if_pos rfl] at known
    obtain rfl := Option.some.inj known
    rw [asciiLabel, if_pos ascii]

/-! ### Punycode -/

theorem digitChar_ascii {d : Nat} (digit : d < base) : isAscii (digitChar d) = true := by
  have all : ∀ d : Fin base, isAscii (digitChar d.val) = true := by decide
  exact all ⟨d, digit⟩

theorem threshold_lt_base (k bias : Nat) : threshold k bias < base := by
  simp only [threshold, base, thresholdMin, thresholdMax]
  omega

theorem encodeNumber_ascii (q k bias : Nat) : ∀ c ∈ encodeNumber q k bias, isAscii c = true := by
  fun_induction encodeNumber q k bias with
  | case1 q k t last =>
    have bound : t < base := threshold_lt_base k bias
    simpa using digitChar_ascii (Nat.lt_trans last bound)
  | case2 q k t more ih =>
    have bound : t < base := threshold_lt_base k bias
    have digit : t + (q - t) % (base - t) < base := by
      have := Nat.mod_lt (q - t) (Nat.sub_pos_of_lt bound)
      omega
    intro c mem
    rcases List.mem_cons.1 mem with rfl | later
    · exact digitChar_ascii digit
    · exact ih c later

theorem encodePoint_ascii (n basic : Nat) (label : List Nat) {e : Encoding}
    (written : ∀ c ∈ e.output, isAscii c = true) : ∀ c ∈ (encodePoint n basic label e).output, isAscii c = true := by
  unfold encodePoint
  induction label generalizing e with
  | nil => exact written
  | cons p label ih =>
    rw [List.foldl_cons]
    apply ih
    split
    · exact written
    · split
      · intro c mem
        rcases List.mem_append.1 mem with before | now
        · exact written c before
        · exact encodeNumber_ascii _ _ _ c now
      · exact written

theorem encodePoints_ascii (basic : Nat) (label points : List Nat) (n : Nat) {e : Encoding}
    (written : ∀ c ∈ e.output, isAscii c = true) :
    ∀ c ∈ (encodePoints basic label points n e).output, isAscii c = true := by
  induction points generalizing n e with
  | nil => exact written
  | cons m points ih => exact ih (m + 1) (encodePoint_ascii m basic label written)

theorem punycode_ascii (label : List Char) : ∀ c ∈ punycode label, isAscii c = true := by
  refine encodePoints_ascii _ _ _ _ ?_
  intro c mem
  simp only at mem
  split at mem
  · cases mem
  · rcases List.mem_append.1 mem with basic | sign
    · exact (List.mem_filter.1 basic).2
    · obtain rfl := List.mem_singleton.1 sign
      decide

theorem asciiLabel_ascii (label : List Char) : ∀ c ∈ asciiLabel label, isAscii c = true := by
  intro c mem
  unfold asciiLabel at mem
  split at mem
  · next ascii => exact List.all_eq_true.1 ascii c mem
  · rcases List.mem_append.1 mem with mark | code
    · exact List.all_eq_true.1 (by decide : punycodeMark.all isAscii = true) c mark
    · exact punycode_ascii label c code

/-! ### Names -/

/-- What may be in the ASCII form of a name. -/
def Plain (s : List Char) : Prop :=
  ∀ c ∈ s, isAscii c = true ∧ isForbidden c = false

/-- Each label that comes in Punycode stands for a label, and the labels may stand in one name. -/
def LabelsFit (s : List Char) : Prop :=
  ∃ labels, (splitAt '.' s).mapM unicodeLabel? = some labels ∧ directionsAgree labels = true

theorem Plain.not_mem {s : List Char} {c : Char} (plain : Plain s) (forbidden : isForbidden c = true) : c ∉ s := by
  intro mem
  rw [(plain c mem).2] at forbidden
  cases forbidden

theorem plain_map_toLower_iff {s : List Char} : Plain (s.map Char.toLower) ↔ Plain s := by
  simp [Plain]

/-- The ASCII form of any name is plain. -/
theorem toAscii?_plain {name s : List Char} (read : toAscii? name = some s) : Plain s := by
  unfold toAscii? at read
  obtain ⟨mapped, -, read⟩ := Option.bind_eq_some_iff.1 read
  obtain ⟨labels, -, read⟩ := Option.bind_eq_some_iff.1 read
  simp only [Option.ite_none_right_eq_some, Bool.and_eq_true, Bool.not_eq_true', List.any_eq_false,
    Option.some.injEq] at read
  obtain ⟨⟨-, allowed⟩, rfl⟩ := read
  intro c mem
  refine ⟨?_, by simpa using allowed c mem⟩
  have ascii : ∀ p ∈ labels.map asciiLabel, ∀ c ∈ p, isAscii c = true := by
    intro p within
    obtain ⟨label, -, rfl⟩ := List.mem_map.1 within
    exact asciiLabel_ascii label
  exact forall_mem_intercalate (List.all_eq_true.1 (rfl : ['.'].all isAscii = true)) ascii c mem

/-- Labels in ASCII are written as they were read. -/
theorem map_asciiLabel {parts labels : List (List Char)} (ascii : ∀ p ∈ parts, p.all isAscii = true)
    (read : parts.mapM unicodeLabel? = some labels) : labels.map asciiLabel = parts := by
  rw [mapM_eq_some_iff] at read
  induction parts generalizing labels with
  | nil => simpa using read.symm
  | cons p parts ih =>
    obtain ⟨l, labels, rfl⟩ := List.exists_cons_of_ne_nil (l := labels) (by rintro rfl; cases read)
    obtain ⟨first, rest⟩ := List.cons.inj read
    have others : ∀ q ∈ parts, q.all isAscii = true := fun q mem => ascii q (by simp [mem])
    rw [List.map_cons, asciiLabel_of_unicodeLabel? (ascii p (by simp)) first, ih others rest]

theorem splitAt_ascii {s : List Char} (ascii : ∀ c ∈ s, isAscii c = true) :
    ∀ p ∈ splitAt '.' s, p.all isAscii = true := by
  intro p mem
  have joined := ((splitAt_eq_iff (c := '.') (s := s)).1 rfl).2.2
  refine List.all_eq_true.2 fun c within => ascii c ?_
  rw [joined]
  exact (infix_intercalate _ mem).subset within

/-- Labels read from a plain name are written as that name. -/
theorem joined_labels {s : List Char} {labels : List (List Char)} (plain : Plain s)
    (read : (splitAt '.' s).mapM unicodeLabel? = some labels) : ['.'].intercalate (labels.map asciiLabel) = s := by
  rw [map_asciiLabel (splitAt_ascii fun c mem => (plain c mem).1) read]
  exact ((splitAt_eq_iff (c := '.')).1 rfl).2.2.symm

/-- A plain name is its own ASCII form in lower case, if its labels fit. -/
theorem toAscii?_eq_some_iff {s r : List Char} (plain : Plain s) :
    toAscii? s = some r ↔ LabelsFit (s.map Char.toLower) ∧ r = s.map Char.toLower := by
  have lower : Plain (s.map Char.toLower) := plain_map_toLower_iff.2 plain
  have mapped : (s.map fun c => [c.toLower]).flatten = s.map Char.toLower := by
    rw [← List.flatMap_def, ← List.map_eq_flatMap]
  have allowed : (s.map Char.toLower).any isForbidden = false := by
    rw [List.any_eq_false]
    intro c mem
    simp [(lower c mem).2]
  unfold toAscii?
  rw [mapM_mapChar_ascii fun c mem => (plain c mem).1]
  simp only [Option.bind_eq_bind, Option.bind_some, mapped, composed_ascii fun c mem => (lower c mem).1]
  rw [Option.bind_eq_some_iff]
  constructor
  · rintro ⟨labels, read, joined⟩
    rw [joined_labels lower read] at joined
    simp only [allowed, Bool.not_false, Bool.and_true, Option.ite_none_right_eq_some, Option.some.injEq] at joined
    exact ⟨⟨labels, read, joined.1⟩, joined.2.symm⟩
  · rintro ⟨⟨labels, read, agree⟩, rfl⟩
    refine ⟨labels, read, ?_⟩
    rw [joined_labels lower read]
    simp [allowed, agree]

/-- Labels that are not marked as Punycode fit. -/
theorem labelsFit_of_unmarked {s : List Char} (ascii : ∀ c ∈ s, isAscii c = true)
    (unmarked : ∀ label ∈ splitAt '.' s, ¬ punycodeMark <+: label) : LabelsFit s := by
  have labels := splitAt_ascii ascii
  refine ⟨splitAt '.' s, mapM_eq_some_iff.2 (List.map_congr_left ?_), ?_⟩
  · intro label mem
    have whole : punycodeMark.isPrefixOf? label = none := by
      rw [← Option.not_isSome_iff_eq_none]
      intro marked
      obtain ⟨code, e⟩ := Option.isSome_iff_exists.1 marked
      exact unmarked label mem ⟨code, List.isPrefixOf?_eq_some_iff_append_eq.1 e⟩
    simp [unicodeLabel?, whole, labels label mem]
  · have level : (splitAt '.' s).any (fun label => label.any isRightToLeft) = false := by
      simp only [List.any_eq_false, Bool.not_eq_true]
      intro label mem c within
      exact isRightToLeft_ascii (List.all_eq_true.1 (labels label mem) c within)
    simp [directionsAgree, level]

end Lookout.DomainName
