import Lookout.Proofs.Text.Occurrence

/-!
# Texts that keep apart

Two texts are apart if neither occurs in the other and no end of one is a beginning of the other: where
one of them stands in a longer text, no occurrence of the other reaches into it. Replacing parts of a text
by `new` then makes no occurrence of a text that is apart from `new`. A separator without borders cannot
reach into itself, and joined pieces are cut into the same pieces again. What occurs only within it is in none
of the pieces that it leaves, and the other way round if its first and its last character stand nowhere else in it.
-/

namespace Lookout.Text
set_option autoImplicit false

variable {α : Type}

/-- Neither of two texts can reach into the other. -/
structure Apart (a b : List α) : Prop where
  notIn : ¬ a <:+: b
  notAround : ¬ b <:+: a
  notBefore : ∀ e, e ≠ [] → e <:+ a → ¬ e <+: b
  notBehind : ∀ e, e ≠ [] → e <:+ b → ¬ e <+: a

namespace Apart

variable {a b : List α}

theorem ne_nil (h : Apart a b) : a ≠ [] := by
  rintro rfl
  exact h.notIn List.nil_infix

/-- Texts without a common character are apart. -/
theorem of_disjoint (na : a ≠ []) (nb : b ≠ []) (disjoint : ∀ c ∈ a, c ∉ b) : Apart a b where
  notIn occurs := by
    obtain ⟨c, s, rfl⟩ := List.exists_cons_of_ne_nil na
    exact disjoint c (by simp) (occurs.subset (by simp))
  notAround occurs := by
    obtain ⟨c, s, rfl⟩ := List.exists_cons_of_ne_nil nb
    exact disjoint c (occurs.subset (by simp)) (by simp)
  notBefore e ne ends begins := by
    obtain ⟨c, s, rfl⟩ := List.exists_cons_of_ne_nil ne
    exact disjoint c (ends.subset (by simp)) (begins.subset (by simp))
  notBehind e ne ends begins := by
    obtain ⟨c, s, rfl⟩ := List.exists_cons_of_ne_nil ne
    exact disjoint c (begins.subset (by simp)) (ends.subset (by simp))

/-- No occurrence of `a` begins in `b` and goes on behind it. -/
theorem not_prefix_append (h : Apart a b) {e : List α} (ne : e ≠ []) (ends : e <:+ b) (s : List α) :
    ¬ a <+: e ++ s := by
  intro begins
  rcases List.prefix_or_prefix_of_prefix begins (List.prefix_append e s) with within | beyond
  · exact h.notIn (within.isInfix.trans ends.isInfix)
  · exact h.notBehind e ne ends beyond

/-- An occurrence of `a` that begins before an occurrence of `b` ends before it. -/
theorem prefix_of_prefix_append (h : Apart a b) {x s : List α}
    (begins : a <+: x ++ (b ++ s)) : a <+: x := by
  rcases List.prefix_or_prefix_of_prefix begins (List.prefix_append x (b ++ s)) with within | ⟨e, rfl⟩
  · exact within
  · have rest : e <+: b ++ s := (List.prefix_append_right_inj x).1 begins
    by_cases empty : e = []
    · simp [empty]
    · rcases List.prefix_or_prefix_of_prefix rest (List.prefix_append b s) with short | ⟨r, rfl⟩
      · exact absurd short (h.notBefore e empty (List.suffix_append x e))
      · exact absurd (List.infix_append' x b r) h.notAround

/-- An occurrence of `a` in a text with `b` in it lies on one side of `b`. -/
theorem infix_of_infix_around (h : Apart a b) {x y : List α} (occurs : a <:+: x ++ (b ++ y)) :
    a <:+: x ∨ a <:+: y := by
  rcases List.infix_append_iff_ne_nil.1 occurs with left | right | ⟨u, v, nu, nv, rfl, ends, begins⟩
  · exact .inl left
  · rcases List.infix_append_iff_ne_nil.1 right with within | right | ⟨u, v, nu, nv, rfl, ends, begins⟩
    · exact absurd within h.notIn
    · exact .inr right
    · exact absurd (List.prefix_append u v) (h.notBehind u nu ends)
  · have all : u ++ v <+: u ++ (b ++ y) := (List.prefix_append_right_inj u).2 begins
    exact .inl ((h.prefix_of_prefix_append all).isInfix.trans ends.isInfix)

theorem infix_of_infix_intercalate (h : Apart a b) {ps : List (List α)}
    (occurs : a <:+: b.intercalate ps) : ∃ p ∈ ps, a <:+: p := by
  induction ps with
  | nil => exact absurd (List.infix_nil.1 occurs) h.ne_nil
  | cons p ps ih =>
    cases ps with
    | nil => exact ⟨p, by simp, by simpa using occurs⟩
    | cons q qs =>
      rw [List.intercalate_cons_cons, List.append_assoc] at occurs
      rcases h.infix_of_infix_around occurs with here | later
      · exact ⟨p, by simp, here⟩
      · obtain ⟨r, mem, within⟩ := ih later
        exact ⟨r, List.mem_cons_of_mem _ mem, within⟩

variable [DecidableEq α]

/-- Replacing text by `b` makes no occurrence of `a`. -/
theorem not_infix_replaceAll (h : Apart a b) {old s : List α} (nonempty : old ≠ []) (absent : ¬ a <:+: s) :
    ¬ a <:+: replaceAll old b s := by
  intro occurs
  obtain ⟨p, mem, within⟩ := h.infix_of_infix_intercalate occurs
  exact absent (within.trans (infix_of_mem_pieces nonempty mem))

/-- Once replaced by `b`, `a` no longer occurs. -/
theorem not_infix_replaceAll_self (h : Apart a b) (s : List α) : ¬ a <:+: replaceAll a b s := by
  intro occurs
  obtain ⟨p, mem, within⟩ := h.infix_of_infix_intercalate occurs
  exact not_infix_of_mem_pieces h.ne_nil mem within

/-- Occurrences of `a` are replaced on both sides of `b`, and `b` stays. -/
theorem replaceAll_around (h : Apart a b) (new x y : List α) :
    replaceAll a new (x ++ (b ++ y)) = replaceAll a new x ++ (b ++ replaceAll a new y) := by
  induction x using cut_induction h.ne_nil with
  | nil =>
    rw [List.nil_append, replaceAll_nil, List.nil_append]
    exact replaceAll_append new fun e ne ends => h.not_prefix_append ne ends y
  | skip r ih =>
    rw [List.append_assoc, replaceAll_append_self h.ne_nil, ih, replaceAll_append_self h.ne_nil,
      List.append_assoc]
  | keep c r absent ih =>
    have later : ¬ a <+: c :: (r ++ (b ++ y)) := by
      intro begins
      exact absent (h.prefix_of_prefix_append (x := c :: r) begins)
    rw [List.cons_append, replaceAll_cons new later, ih, replaceAll_cons new absent, List.cons_append]

theorem replaceAll_intercalate (h : Apart a b) (new : List α) (ps : List (List α)) :
    replaceAll a new (b.intercalate ps) = b.intercalate (ps.map (replaceAll a new)) := by
  induction ps with
  | nil => simp
  | cons p ps ih =>
    cases ps with
    | nil => simp
    | cons q qs =>
      rw [List.intercalate_cons_cons, List.append_assoc, h.replaceAll_around new, ih]
      simp

end Apart

variable [DecidableEq α]

/-- Whether an end of `a`, not the empty one, is a beginning of `b`. -/
def overlaps (a b : List α) : Bool :=
  a.tails.any fun e => !e.isEmpty && e.isPrefixOf b

theorem overlaps_eq_false_iff {a b : List α} :
    overlaps a b = false ↔ ∀ e, e ≠ [] → e <:+ a → ¬ e <+: b := by
  simp only [overlaps, List.any_eq_false, List.mem_tails, Bool.and_eq_true, Bool.not_eq_true',
    List.isEmpty_eq_false_iff, List.isPrefixOf_iff_prefix, not_and]
  constructor
  · intro apart e ne ends
    exact apart e ends ne
  · intro apart e ends ne
    exact apart e ne ends

/-- Whether two texts are apart. -/
def apart (a b : List α) : Bool :=
  !(occursIn a b || occursIn b a || overlaps a b || overlaps b a)

theorem apart_iff {a b : List α} : apart a b = true ↔ Apart a b := by
  simp only [apart, Bool.not_eq_true', Bool.or_eq_false_iff, occursIn_eq_false_iff, overlaps_eq_false_iff]
  constructor
  · rintro ⟨⟨⟨notIn, notAround⟩, notBefore⟩, notBehind⟩
    exact ⟨notIn, notAround, notBefore, notBehind⟩
  · intro h
    exact ⟨⟨⟨h.notIn, h.notAround⟩, h.notBefore⟩, h.notBehind⟩

instance (a b : List α) : Decidable (Apart a b) :=
  decidable_of_iff _ apart_iff

/-- Whether no end of `s`, other than `s` itself and the empty one, is a beginning of `s`. -/
def borderless (s : List α) : Bool :=
  s.tails.all fun e => e.isEmpty || e == s || !e.isPrefixOf s

theorem eq_of_borderless {s e : List α} (h : borderless s = true) (ne : e ≠ []) (ends : e <:+ s)
    (begins : e <+: s) : e = s := by
  have here := List.all_eq_true.1 h e ((List.mem_tails e s).2 ends)
  have begin : e.isPrefixOf s = true := List.isPrefixOf_iff_prefix.2 begins
  simpa [ne, begin] using here

/-- A separator without borders is first found where it is put. -/
theorem pieces_append {sep x : List α} (h : borderless sep = true) (nonempty : sep ≠ [])
    (absent : ¬ sep <:+: x) (y : List α) : pieces sep (x ++ (sep ++ y)) = x :: pieces sep y := by
  induction x with
  | nil => exact pieces_append_self nonempty y
  | cons c x ih =>
    have here : ¬ sep <+: c :: (x ++ (sep ++ y)) := by
      intro begins
      rw [← List.cons_append] at begins
      rcases List.prefix_or_prefix_of_prefix begins (List.prefix_append (c :: x) (sep ++ y)) with within | ⟨e, he⟩
      · exact absent within.isInfix
      · -- the occurrence would end in a part of `sep` that is both an end and a beginning of it
        have rest : e <+: sep ++ y := by
          rw [← he] at begins
          exact (List.prefix_append_right_inj (c :: x)).1 (he ▸ begins)
        have ends : e <:+ sep := ⟨c :: x, he⟩
        have shorter : e.length < sep.length := by
          rw [← he, List.length_append, List.length_cons]
          omega
        by_cases empty : e = []
        · exact absent (by rw [← he, empty, List.append_nil])
        · have begin := List.prefix_of_prefix_length_le rest (List.prefix_append sep y) (by omega)
          rw [eq_of_borderless h empty ends begin] at shorter
          omega
    rw [List.infix_cons_iff, not_or] at absent
    rw [List.cons_append, pieces_cons here, ih absent.2, List.modifyHead_cons]

/-- Pieces without the separator, joined by it, are cut into the same pieces. -/
theorem pieces_intercalate {sep : List α} (h : borderless sep = true) (nonempty : sep ≠ [])
    {ps : List (List α)} (occupied : ps ≠ []) (absent : ∀ p ∈ ps, ¬ sep <:+: p) :
    pieces sep (sep.intercalate ps) = ps := by
  induction ps with
  | nil => exact absurd rfl occupied
  | cons p ps ih =>
    cases ps with
    | nil =>
      rw [List.intercalate_singleton]
      exact pieces_eq_singleton (absent p (by simp))
    | cons q qs =>
      rw [List.intercalate_cons_cons, List.append_assoc, pieces_append h nonempty (absent p (by simp)),
        ih (by simp) fun r mem => absent r (List.mem_cons_of_mem _ mem)]

/-! ### Occurrences within another text -/

omit [DecidableEq α] in
/-- Where `part` occurs in `s`, it is a part of an occurrence of `whole`. -/
def OnlyWithin (whole part s : List α) : Prop :=
  ∀ a b, s = a ++ (part ++ b) → ∃ x y c d, whole = x ++ (part ++ y) ∧ a = c ++ x ∧ b = y ++ d

omit [DecidableEq α] in
theorem onlyWithin_iff {whole part s : List α} : OnlyWithin whole part s ↔
    ∀ i ≤ s.length, part <+: s.drop i → ∃ j ≤ i, whole <+: s.drop j ∧ i + part.length ≤ j + whole.length := by
  constructor
  · rintro only i le ⟨b, rest⟩
    have cut : s = s.take i ++ (part ++ b) := by rw [rest, List.take_append_drop]
    obtain ⟨x, y, c, d, rfl, before, rfl⟩ := only _ _ cut
    have size : c.length + x.length = i := by
      rw [← List.length_append, ← before, List.length_take, Nat.min_eq_left le]
    refine ⟨c.length, by omega, ⟨d, ?_⟩, ?_⟩
    · rw [cut, before, List.append_assoc c, List.drop_left]
      simp
    · simp only [List.length_append]
      omega
  · rintro places a b rfl
    obtain ⟨j, le, ⟨d, rest⟩, long⟩ := places a.length (by simp) (by simp)
    rw [List.drop_append_of_le_length le] at rest
    have both : a.drop j ++ part <+: whole ++ d := ⟨b, by rw [rest, List.append_assoc]⟩
    have short : (a.drop j ++ part).length ≤ whole.length := by
      rw [List.length_append, List.length_drop]
      omega
    have begins := List.prefix_of_prefix_length_le both (List.prefix_append whole d) short
    obtain ⟨y, rfl⟩ := begins
    refine ⟨a.drop j, y, a.take j, d, by simp, by simp, ?_⟩
    simpa using rest.symm

instance (whole part s : List α) : Decidable (OnlyWithin whole part s) :=
  decidable_of_iff _ onlyWithin_iff.symm

namespace OnlyWithin

variable {whole part r : List α}

omit [DecidableEq α] in
theorem of_cons {c : α} (only : OnlyWithin whole part (c :: r)) (absent : ¬ whole <+: c :: r) :
    OnlyWithin whole part r := by
  rintro a b rfl
  obtain ⟨x, y, front, d, inside, before, rfl⟩ := only (c :: a) b rfl
  cases front with
  | nil =>
    refine absurd ⟨d, ?_⟩ absent
    rw [inside, ← List.cons_append, before]
    simp
  | cons e front =>
    obtain ⟨rfl, rest⟩ := List.cons.inj before
    exact ⟨x, y, front, d, inside, rest, rfl⟩

/-- No occurrence of a text without borders reaches over the end of another one. -/
theorem of_append (h : borderless whole = true) (nonempty : part ≠ []) (only : OnlyWithin whole part (whole ++ r)) :
    OnlyWithin whole part r := by
  rintro a b rfl
  obtain ⟨x, y, front, d, inside, before, rfl⟩ := only (whole ++ a) b (by simp)
  rcases List.append_eq_append_iff.1 before with ⟨z, -, rest⟩ | ⟨z, cut, rest⟩
  · exact ⟨x, y, z, d, inside, rest, rfl⟩
  · by_cases empty : z = []
    · exact ⟨x, y, [], d, inside, by simp [rest, empty], rfl⟩
    · -- `z` would be both an end and a beginning of `whole`, and shorter
      have begins : z <+: whole := ⟨a ++ (part ++ y), by rw [inside, rest, List.append_assoc]⟩
      have same := eq_of_borderless h empty ⟨front, cut.symm⟩ begins
      have size := congrArg List.length inside
      have positive := List.length_pos_of_ne_nil nonempty
      rw [rest, same] at size
      simp only [List.length_append] at size
      omega

/-- What occurs only within a separator without borders is in none of the pieces. -/
theorem not_infix_of_mem_pieces {sep part s p : List α} (h : borderless sep = true) (sepNonempty : sep ≠ [])
    (nonempty : part ≠ []) (only : OnlyWithin sep part s) (mem : p ∈ pieces sep s) : ¬ part <:+: p := by
  induction s using cut_induction sepNonempty generalizing p with
  | nil =>
    obtain rfl : p = [] := by simpa using mem
    simpa using nonempty
  | skip r ih =>
    rw [pieces_append_self sepNonempty] at mem
    rcases List.mem_cons.1 mem with rfl | later
    · simpa using nonempty
    · exact ih (only.of_append h nonempty) later
  | keep c r absent ih =>
    have rest : ∀ {q}, q ∈ pieces sep r → ¬ part <:+: q := ih (only.of_cons absent)
    obtain ⟨q, qs, cut, begins⟩ := pieces_head sepNonempty r
    rw [pieces_cons absent, cut, List.modifyHead_cons] at mem
    rcases List.mem_cons.1 mem with rfl | later
    · rw [List.infix_cons_iff, not_or]
      refine ⟨fun first => ?_, rest (by simp [cut])⟩
      -- an occurrence at the head would be within one of the separator there
      obtain ⟨b, e⟩ := first.trans ((List.cons_prefix_cons (a := c)).2 ⟨rfl, begins⟩)
      obtain ⟨x, y, front, d, inside, before, rfl⟩ := only [] b e.symm
      obtain ⟨rfl, rfl⟩ : front = [] ∧ x = [] := by simpa using before.symm
      exact absent ⟨d, by rw [inside, ← e]; simp⟩
    · exact rest (cut ▸ List.mem_cons_of_mem _ later)

end OnlyWithin

omit [DecidableEq α] in
/-- The first character of `s` stands nowhere else in it. -/
def HeadOnce (s : List α) : Prop :=
  ∀ c ∈ s.head?, c ∉ s.tail

instance (s : List α) : Decidable (HeadOnce s) :=
  inferInstanceAs (Decidable (∀ c ∈ s.head?, c ∉ s.tail))

omit [DecidableEq α] in
/-- What comes behind the first character of a part of `s` is no beginning of `s`. -/
theorem HeadOnce.not_prefix {s u v : List α} (once : HeadOnce s) (nonempty : u ≠ []) (more : v ≠ [])
    (part : u ++ v <:+: s) : ¬ v <+: s := by
  rintro ⟨z, begins⟩
  obtain ⟨x, y, whole⟩ := part
  obtain ⟨c, v, rfl⟩ := List.exists_cons_of_ne_nil more
  obtain ⟨e, u, rfl⟩ := List.exists_cons_of_ne_nil nonempty
  have first : c ∈ s.head? := by simp [← begins]
  apply once c first
  rw [← whole]
  cases x with
  | nil => simp
  | cons d x => simp

omit [DecidableEq α] in
/-- What comes before the last character of a part of `s` is no end of `s`, if the last character of `s` stands nowhere
else in it. -/
theorem HeadOnce.not_suffix {s u v : List α} (once : HeadOnce s.reverse) (nonempty : u ≠ []) (more : v ≠ [])
    (part : u ++ v <:+: s) : ¬ u <:+ s := by
  rw [← List.reverse_prefix]
  apply once.not_prefix (u := v.reverse) (by simpa using more) (by simpa using nonempty)
  rw [← List.reverse_append]
  exact List.reverse_infix.2 part

/-- A text is its first piece, or that piece and a separator come first in it. -/
theorem exists_pieces_head {sep : List α} (nonempty : sep ≠ []) (s : List α) :
    ∃ p ps, pieces sep s = p :: ps ∧ ∃ r, s = p ++ r ∧ (r = [] ∨ sep <+: r) := by
  obtain ⟨p, ps, cut⟩ := List.exists_cons_of_ne_nil (pieces_ne_nil sep s)
  have whole := intercalate_pieces nonempty s
  rw [cut] at whole
  refine ⟨p, ps, cut, ?_⟩
  cases ps with
  | nil => exact ⟨[], by simpa using whole.symm, .inl rfl⟩
  | cons q qs =>
    rw [List.intercalate_cons_cons, List.append_assoc] at whole
    exact ⟨_, whole.symm, .inr (List.prefix_append _ _)⟩

omit [DecidableEq α] in
/-- A character in front, with which no occurrence begins, changes nothing. -/
theorem OnlyWithin.cons {whole part r : List α} {c : α} (head : ¬ part <+: c :: r) (later : OnlyWithin whole part r) :
    OnlyWithin whole part (c :: r) := by
  intro a b cut
  cases a with
  | nil => exact absurd ⟨b, cut.symm⟩ head
  | cons d a =>
    obtain ⟨rfl, rest⟩ := List.cons.inj cut
    obtain ⟨x, y, front, behind, form, rfl, after⟩ := later a b rest
    exact ⟨x, y, c :: front, behind, form, by simp, after⟩

omit [DecidableEq α] in
/-- No occurrence of a part reaches over the end of a text whose last character stands nowhere else in it. -/
theorem OnlyWithin.append_self {whole part r : List α} (last : HeadOnce whole.reverse) (inside : part <:+: whole)
    (later : OnlyWithin whole part r) : OnlyWithin whole part (whole ++ r) := by
  intro a b cut
  rcases List.append_eq_append_iff.1 cut with ⟨a', rfl, rest⟩ | ⟨e, rfl, rest⟩
  · -- the occurrence is behind `whole`
    obtain ⟨x, y, c, d, form, rfl, behind⟩ := later a' b rest
    exact ⟨x, y, whole ++ c, d, form, by simp, behind⟩
  · by_cases empty : e = []
    · -- it begins where `whole` ends
      subst empty
      obtain ⟨x, y, c, d, form, before, behind⟩ := later [] b (by simpa using rest.symm)
      obtain ⟨rfl, rfl⟩ : c = [] ∧ x = [] := by simpa using before.symm
      exact ⟨[], y, a, d, form, by simp, behind⟩
    · rcases List.append_eq_append_iff.1 rest with ⟨z, rfl, behind⟩ | ⟨z, rfl, behind⟩
      · exact ⟨a, z, [], r, rfl, rfl, behind⟩
      · by_cases ended : z = []
        · subst ended
          exact ⟨a, [], [], r, by simp, rfl, by simpa using behind.symm⟩
        · exact absurd (List.suffix_append a e) (last.not_suffix empty ended inside)

/-- Where no separator begins, no part of it does that is in none of the pieces: it would go on in the separator behind
the first piece, whose first character stands nowhere else in it. -/
theorem not_prefix_of_pieces {sep part r : List α} {c : α} (first : HeadOnce sep) (nonempty : part ≠ [])
    (inside : part <:+: sep) (other : ¬ sep <+: c :: r) (absent : ∀ p ∈ pieces sep (c :: r), ¬ part <:+: p) :
    ¬ part <+: c :: r := by
  have sepNonempty : sep ≠ [] := by
    rintro rfl
    exact nonempty (List.infix_nil.1 inside)
  obtain ⟨p, ps, cut, t, front, goes⟩ := exists_pieces_head sepNonempty r
  rw [pieces_cons other, cut, List.modifyHead_cons, List.forall_mem_cons] at absent
  rintro ⟨b, whole⟩
  have pieceOrBeyond : part <+: c :: p ∨ c :: p <+: part := by
    apply List.prefix_or_prefix_of_prefix (List.prefix_append part b)
    rw [whole, front]
    exact List.prefix_append (c :: p) t
  rcases pieceOrBeyond with short | ⟨z, rfl⟩
  · exact absent.1 short.isInfix
  · have more : z ≠ [] := by
      rintro rfl
      exact absent.1 (by simp)
    have rest : t = z ++ b := by simpa [front, eq_comm] using whole
    rcases goes with ended | ⟨u, begins⟩
    · simp [ended, more] at rest
    · have length : z.length ≤ sep.length := by
        have short := inside.length_le
        simp only [List.length_append, List.length_cons] at short
        omega
      have begins : z <+: sep := List.prefix_of_prefix_length_le ⟨b, rest.symm⟩ ⟨u, begins⟩ length
      exact first.not_prefix (by simp) more inside begins

/-- **A part of a separator that is in none of the pieces** occurs only within the separator, if the first and the last
character of the separator stand nowhere else in it: then no part of it reaches over its edges. -/
theorem onlyWithin_of_pieces {sep part s : List α} (first : HeadOnce sep) (last : HeadOnce sep.reverse)
    (nonempty : part ≠ []) (inside : part <:+: sep) (absent : ∀ p ∈ pieces sep s, ¬ part <:+: p) :
    OnlyWithin sep part s := by
  have sepNonempty : sep ≠ [] := by
    rintro rfl
    exact nonempty (List.infix_nil.1 inside)
  induction s using cut_induction sepNonempty with
  | nil =>
    intro a b whole
    simp [nonempty] at whole
  | skip r ih =>
    rw [pieces_append_self sepNonempty] at absent
    have later := ih fun p mem => absent p (List.mem_cons_of_mem _ mem)
    exact later.append_self last inside
  | keep c r other ih =>
    have head := not_prefix_of_pieces first nonempty inside other absent
    obtain ⟨p, ps, cut, -⟩ := exists_pieces_head sepNonempty r
    rw [pieces_cons other, cut, List.modifyHead_cons, List.forall_mem_cons] at absent
    have later := ih fun q mem => by
      rcases List.mem_cons.1 (cut ▸ mem) with rfl | there
      · exact fun occurs => absent.1 (List.infix_cons occurs)
      · exact absent.2 q there
    exact later.cons head

end Lookout.Text
