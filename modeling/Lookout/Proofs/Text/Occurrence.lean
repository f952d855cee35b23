import Lookout.Text.Occurrence
import Mathlib.Data.List.Infix

/-!
# What cutting and replacing do to a text

`pieces` and `replaceAll` by the two things that can happen at the head of a text: an occurrence is
passed over as a whole, or one character is kept. `cut_induction` follows the same two cases. The pieces
of a text are parts of it in which the separator does not occur, and joined by it they are the text.
-/

namespace Lookout.Text
set_option autoImplicit false

variable {α : Type} [DecidableEq α]

theorem occursIn_iff {part s : List α} : occursIn part s = true ↔ part <:+: s := by
  induction s with
  | nil => simp [occursIn]
  | cons c r ih => simp [occursIn, ih, List.infix_cons_iff, List.isPrefixOf_iff_prefix]

theorem occursIn_eq_false_iff {part s : List α} : occursIn part s = false ↔ ¬ part <:+: s := by
  rw [← occursIn_iff, Bool.not_eq_true]

/-- Skipping characters cuts the text without them. -/
theorem piecesFrom_eq_drop (sep : List α) (skip : Nat) (s : List α) :
    piecesFrom sep skip s = pieces sep (s.drop skip) := by
  induction s generalizing skip with
  | nil => cases skip <;> rfl
  | cons c r ih =>
    cases skip with
    | zero => rfl
    | succ k => simpa [piecesFrom] using ih k

@[simp] theorem pieces_nil (sep : List α) : pieces sep [] = [[]] := rfl

theorem pieces_ne_nil (sep s : List α) : pieces sep s ≠ [] := piecesFrom_ne_nil sep 0 s

/-- An occurrence at the head ends an empty piece. -/
theorem pieces_append_self {sep : List α} (nonempty : sep ≠ []) (r : List α) :
    pieces sep (sep ++ r) = [] :: pieces sep r := by
  cases sep with
  | nil => exact absurd rfl nonempty
  | cons c sep =>
    have here : (c :: sep).isPrefixOf (c :: (sep ++ r)) = true := by
      simp [List.isPrefixOf_iff_prefix]
    rw [pieces, List.cons_append, piecesFrom, if_pos here, piecesFrom_eq_drop]
    simp

/-- Without an occurrence at the head, its character goes to the first piece. -/
theorem pieces_cons {sep r : List α} {c : α} (absent : ¬ sep <+: c :: r) :
    pieces sep (c :: r) = (pieces sep r).modifyHead (c :: ·) := by
  have here : ¬ sep.isPrefixOf (c :: r) = true := by rwa [List.isPrefixOf_iff_prefix]
  rw [pieces, piecesFrom, if_neg here]
  rfl

/-- Induction on a text as `pieces` goes through it. -/
theorem cut_induction {sep : List α} (nonempty : sep ≠ []) {motive : List α → Prop}
    (nil : motive []) (skip : ∀ r, motive r → motive (sep ++ r))
    (keep : ∀ c r, ¬ sep <+: c :: r → motive r → motive (c :: r)) (s : List α) : motive s := by
  generalize size : s.length = n
  induction n using Nat.strongRecOn generalizing s with
  | ind n ih =>
    subst size
    cases s with
    | nil => exact nil
    | cons c r =>
      by_cases here : sep <+: c :: r
      · obtain ⟨rest, e⟩ := here
        have shorter : rest.length < (c :: r).length := by
          have := List.length_pos_of_ne_nil nonempty
          rw [← e, List.length_append]
          omega
        exact e ▸ skip rest (ih _ shorter rest rfl)
      · exact keep c r here (ih _ (by simp) r rfl)

/-- The first piece is what a text begins with. -/
theorem pieces_head {sep : List α} (nonempty : sep ≠ []) (s : List α) :
    ∃ p ps, pieces sep s = p :: ps ∧ p <+: s := by
  induction s using cut_induction nonempty with
  | nil => exact ⟨[], [], rfl, List.prefix_rfl⟩
  | skip r ih => exact ⟨[], pieces sep r, pieces_append_self nonempty r, List.nil_prefix⟩
  | keep c r absent ih =>
    obtain ⟨p, ps, e, begins⟩ := ih
    exact ⟨c :: p, ps, by rw [pieces_cons absent, e, List.modifyHead_cons], by simpa using begins⟩

theorem infix_of_mem_pieces {sep s p : List α} (nonempty : sep ≠ []) (mem : p ∈ pieces sep s) :
    p <:+: s := by
  induction s using cut_induction nonempty generalizing p with
  | nil => simp_all
  | skip r ih =>
    rw [pieces_append_self nonempty] at mem
    rcases List.mem_cons.1 mem with rfl | mem
    · exact List.nil_infix
    · exact List.infix_append_of_infix_right (ih mem)
  | keep c r absent ih =>
    obtain ⟨q, qs, e, begins⟩ := pieces_head nonempty r
    rw [pieces_cons absent, e, List.modifyHead_cons] at mem
    rcases List.mem_cons.1 mem with rfl | mem
    · exact ((List.cons_prefix_cons (a := c)).2 ⟨rfl, begins⟩).isInfix
    · exact List.infix_cons (ih (e ▸ List.mem_cons_of_mem _ mem))

theorem not_infix_of_mem_pieces {sep s p : List α} (nonempty : sep ≠ []) (mem : p ∈ pieces sep s) :
    ¬ sep <:+: p := by
  induction s using cut_induction nonempty generalizing p with
  | nil => simp_all
  | skip r ih =>
    rw [pieces_append_self nonempty] at mem
    rcases List.mem_cons.1 mem with rfl | mem
    · simpa using nonempty
    · exact ih mem
  | keep c r absent ih =>
    obtain ⟨q, qs, e, begins⟩ := pieces_head nonempty r
    rw [pieces_cons absent, e, List.modifyHead_cons] at mem
    rcases List.mem_cons.1 mem with rfl | mem
    · rw [List.infix_cons_iff, not_or]
      refine ⟨fun h => absent (h.trans ?_), ih (by simp [e])⟩
      exact (List.cons_prefix_cons (a := c)).2 ⟨rfl, begins⟩
    · exact ih (e ▸ List.mem_cons_of_mem _ mem)

theorem intercalate_modifyHead {β : Type} (new : List β) (c : β) {ps : List (List β)} (nonempty : ps ≠ []) :
    new.intercalate (ps.modifyHead (c :: ·)) = c :: new.intercalate ps := by
  cases ps with
  | nil => exact absurd rfl nonempty
  | cons p ps => simp

/-- Joined by the separator, the pieces of a text are the text. -/
theorem intercalate_pieces {sep : List α} (nonempty : sep ≠ []) (s : List α) :
    sep.intercalate (pieces sep s) = s := by
  induction s using cut_induction nonempty with
  | nil => rfl
  | skip r ih =>
    rw [pieces_append_self nonempty, List.intercalate_cons_of_ne_nil (pieces_ne_nil sep r), ih]
    simp
  | keep c r absent ih =>
    rw [pieces_cons absent, intercalate_modifyHead sep c (pieces_ne_nil sep r), ih]

theorem pieces_eq_singleton {sep s : List α} (absent : ¬ sep <:+: s) : pieces sep s = [s] := by
  induction s with
  | nil => rfl
  | cons c r ih =>
    rw [List.infix_cons_iff, not_or] at absent
    rw [pieces_cons absent.1, ih absent.2, List.modifyHead_cons]

omit [DecidableEq α] in
/-- No occurrence at the head comes from behind a character that is not in the separator. -/
theorem not_prefix_append_cons {sep x y : List α} {c : α} (other : c ∉ sep) (absent : ¬ sep <+: x) :
    ¬ sep <+: x ++ c :: y := by
  intro begins
  rcases List.prefix_or_prefix_of_prefix begins (List.prefix_append x (c :: y)) with within | ⟨t, rfl⟩
  · exact absent within
  · have rest : t <+: c :: y := (List.prefix_append_right_inj x).1 begins
    cases t with
    | nil => exact absent (by simp)
    | cons d t =>
      obtain rfl := (List.cons_prefix_cons.1 rest).1
      exact other (by simp)

/-- A character that is not in the separator joins the pieces on its two sides. -/
theorem pieces_append_cons {sep x y p q : List α} {xs ys : List (List α)} {c : α} (nonempty : sep ≠ [])
    (other : c ∉ sep) (ex : pieces sep x = xs ++ [p]) (ey : pieces sep y = q :: ys) :
    pieces sep (x ++ c :: y) = xs ++ (p ++ c :: q) :: ys := by
  induction x using cut_induction nonempty generalizing xs p with
  | nil =>
    have absent : ¬ sep <+: [] ++ c :: y := not_prefix_append_cons other (by simpa using nonempty)
    obtain ⟨rfl, rfl⟩ : xs = [] ∧ p = [] := by
      cases xs <;> simp_all
    rw [List.nil_append, pieces_cons absent, ey]
    rfl
  | skip r ih =>
    rw [pieces_append_self nonempty] at ex
    rw [List.append_assoc, pieces_append_self nonempty]
    cases xs with
    | nil =>
      have empty : pieces sep r = [] := (List.cons.inj ex).2
      exact absurd empty (pieces_ne_nil sep r)
    | cons z zs =>
      obtain ⟨rfl, rest⟩ := List.cons.inj ex
      rw [ih rest, List.cons_append]
  | keep d r absent ih =>
    have absent' : ¬ sep <+: d :: (r ++ c :: y) := not_prefix_append_cons other absent
    obtain ⟨h, t, er⟩ := List.exists_cons_of_ne_nil (pieces_ne_nil sep r)
    rw [pieces_cons absent, er, List.modifyHead_cons] at ex
    rw [List.cons_append, pieces_cons absent']
    cases xs with
    | nil =>
      obtain ⟨rfl, rfl⟩ : d :: h = p ∧ t = [] := by simpa using ex
      have inner : pieces sep (r ++ c :: y) = [] ++ (h ++ c :: q) :: ys := ih (by simpa using er)
      rw [inner]
      rfl
    | cons z zs =>
      obtain ⟨rfl, rfl⟩ : d :: h = z ∧ t = zs ++ [p] := by simpa using ex
      have inner : pieces sep (r ++ c :: y) = (h :: zs) ++ (p ++ c :: q) :: ys := ih (by simpa using er)
      rw [inner]
      rfl

/-- Characters before which no occurrence begins go to the first piece. -/
theorem pieces_append_of_absent {sep x s : List α}
    (absent : ∀ e, e ≠ [] → e <:+ x → ¬ sep <+: e ++ s) :
    pieces sep (x ++ s) = (pieces sep s).modifyHead (x ++ ·) := by
  induction x with
  | nil =>
    obtain ⟨p, ps, cut⟩ := List.exists_cons_of_ne_nil (pieces_ne_nil sep s)
    simp [cut]
  | cons c x ih =>
    have here : ¬ sep <+: c :: (x ++ s) := absent (c :: x) (by simp) List.suffix_rfl
    have later := ih fun e ne ends => absent e ne (ends.trans (List.suffix_cons c x))
    obtain ⟨p, ps, cut⟩ := List.exists_cons_of_ne_nil (pieces_ne_nil sep s)
    rw [List.cons_append, pieces_cons here, later, cut]
    simp

theorem pieces_eq_concat (sep s : List α) : ∃ xs p, pieces sep s = xs ++ [p] := by
  obtain ⟨xs, p, e⟩ := (List.eq_nil_or_concat (pieces sep s)).resolve_left (pieces_ne_nil sep s)
  exact ⟨xs, p, by simpa using e⟩

@[simp] theorem replaceAll_nil (old new : List α) : replaceAll old new [] = [] := by
  simp [replaceAll]

theorem replaceAll_append_self {old : List α} (nonempty : old ≠ []) (new r : List α) :
    replaceAll old new (old ++ r) = new ++ replaceAll old new r := by
  rw [replaceAll, pieces_append_self nonempty, List.intercalate_cons_of_ne_nil (pieces_ne_nil old r)]
  rfl

theorem replaceAll_cons {old r : List α} {c : α} (new : List α) (absent : ¬ old <+: c :: r) :
    replaceAll old new (c :: r) = c :: replaceAll old new r := by
  rw [replaceAll, pieces_cons absent, intercalate_modifyHead new c (pieces_ne_nil old r), replaceAll]

theorem replaceAll_eq_self {old s : List α} (new : List α) (absent : ¬ old <:+: s) :
    replaceAll old new s = s := by
  rw [replaceAll, pieces_eq_singleton absent, List.intercalate_singleton]

/-- Characters before which no occurrence begins are kept. -/
theorem replaceAll_append {old : List α} (new : List α) {x s : List α}
    (absent : ∀ e, e ≠ [] → e <:+ x → ¬ old <+: e ++ s) :
    replaceAll old new (x ++ s) = x ++ replaceAll old new s := by
  obtain ⟨p, ps, cut⟩ := List.exists_cons_of_ne_nil (pieces_ne_nil old s)
  rw [replaceAll, replaceAll, pieces_append_of_absent absent, cut]
  cases ps <;> simp

end Lookout.Text
