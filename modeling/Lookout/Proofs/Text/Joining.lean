import Lookout.Text.Occurrence
import Mathlib.Data.List.Infix
import Mathlib.Data.List.TakeWhile

/-!
# Texts cut and joined in one way

Where a text is cut by a character that one of its parts has not, and what is joined with a separator in
between.
-/

namespace Lookout.Text
set_option autoImplicit false

variable {α : Type}

/-- The first occurrence of `c` cuts a text in one way. -/
theorem split_first [DecidableEq α] {c : α} {a a' b b' : List α} (h : c ∉ a) (h' : c ∉ a')
    (e : a ++ c :: b = a' ++ c :: b') : a = a' ∧ b = b' := by
  have cut := splitOnce_append (b := b) h
  rw [e, splitOnce_append h'] at cut
  simpa [eq_comm] using cut

/-- The last occurrence of `c` cuts a text in one way. -/
theorem split_last [DecidableEq α] {c : α} {a a' b b' : List α} (h : c ∉ b) (h' : c ∉ b')
    (e : a ++ c :: b = a' ++ c :: b') : a = a' ∧ b = b' := by
  have turned : b.reverse ++ c :: a.reverse = b'.reverse ++ c :: a'.reverse := by
    simpa using congrArg List.reverse e
  obtain ⟨eb, ea⟩ := split_first (by simpa using h) (by simpa using h') turned
  exact ⟨List.reverse_inj.1 ea, List.reverse_inj.1 eb⟩

theorem takeWhile_append_cons {p : α → Bool} {a r : List α} {d : α}
    (all : ∀ c ∈ a, p c = true) (stop : p d = false) : (a ++ d :: r).takeWhile p = a := by
  rw [List.takeWhile_append_of_pos all, List.takeWhile_cons_of_neg (by simp [stop]), List.append_nil]

theorem dropWhile_append_cons {p : α → Bool} {a r : List α} {d : α}
    (all : ∀ c ∈ a, p c = true) (stop : p d = false) : (a ++ d :: r).dropWhile p = d :: r := by
  rw [List.dropWhile_append_of_pos all, List.dropWhile_cons_of_neg (by simp [stop])]

/-- A text is what is taken from it while `p` holds, and the rest. -/
theorem eq_takeWhile_append {p : α → Bool} {s r : List α} (h : s.dropWhile p = r) :
    s = s.takeWhile p ++ r := by
  rw [← h, List.takeWhile_append_dropWhile]

/-- A character that is not in the last part of a text is in the part before it. -/
theorem append_eq_append_cons {c : α} {x k a r : List α} (other : c ∉ k) (e : x ++ k = a ++ c :: r) :
    ∃ s, x = a ++ c :: s ∧ r = s ++ k := by
  rcases List.append_eq_append_iff.1 e with ⟨z, -, rest⟩ | ⟨z, split, rest⟩
  · have mem : c ∈ k := by
      rw [rest]
      simp
    exact absurd mem other
  · cases z with
    | nil =>
      have mem : c ∈ k := by
        rw [← List.nil_append k, ← rest]
        simp
      exact absurd mem other
    | cons d z =>
      obtain ⟨rfl, later⟩ := List.cons.inj rest
      exact ⟨z, split, later⟩

/-- A character that is not in the first part of a text is in the part behind it. -/
theorem append_eq_cons_append {c : α} {x k a r : List α} (other : c ∉ x) (e : x ++ k = a ++ c :: r) :
    ∃ s, a = x ++ s ∧ k = s ++ c :: r := by
  rcases List.append_eq_append_iff.1 e with ⟨z, begins, rest⟩ | ⟨z, split, rest⟩
  · exact ⟨z, begins, rest⟩
  · cases z with
    | nil => exact ⟨[], by simpa using split.symm, by simpa using rest.symm⟩
    | cons d z =>
      obtain rfl := (List.cons.inj rest).1
      simp [split] at other

/-- A text is cut at the last occurrence of a character that it has. -/
theorem exists_last_of_mem [DecidableEq α] {c : α} {s : List α} (mem : c ∈ s) : ∃ a b, s = a ++ c :: b ∧ c ∉ b := by
  obtain ⟨b, a, turned, absent⟩ := List.eq_append_cons_of_mem (List.mem_reverse.2 mem)
  exact ⟨a.reverse, b.reverse, by simpa using congrArg List.reverse turned, by simpa using absent⟩

theorem intercalate_append (sep : List α) {ps qs : List (List α)} (nonempty : ps ≠ []) (nonempty' : qs ≠ []) :
    sep.intercalate (ps ++ qs) = sep.intercalate ps ++ sep ++ sep.intercalate qs := by
  induction ps with
  | nil => exact absurd rfl nonempty
  | cons p ps ih =>
    cases ps with
    | nil => rw [List.singleton_append, List.intercalate_cons_of_ne_nil nonempty', List.intercalate_singleton]
    | cons q ps =>
      rw [List.cons_append, List.intercalate_cons_of_ne_nil (by simp), ih (by simp)]
      simp

theorem flatMap_ne_nil {f : List α → List (List α)} (each : ∀ p, f p ≠ []) {ps : List (List α)}
    (nonempty : ps ≠ []) : ps.flatMap f ≠ [] := by
  obtain ⟨p, ps, rfl⟩ := List.exists_cons_of_ne_nil nonempty
  simp [each p]

/-- Joining lists of pieces one by one and then together joins all the pieces. -/
theorem intercalate_map_intercalate (sep : List α) {f : List α → List (List α)} (each : ∀ p, f p ≠ [])
    (ps : List (List α)) :
    sep.intercalate (ps.map fun p => sep.intercalate (f p)) = sep.intercalate (ps.flatMap f) := by
  induction ps with
  | nil => rfl
  | cons p ps ih =>
    cases ps with
    | nil => simp
    | cons q qs =>
      have filled : (q :: qs).flatMap f ≠ [] := flatMap_ne_nil each (by simp)
      rw [List.map_cons, List.intercalate_cons_of_ne_nil (by simp), ih, List.flatMap_cons (x := p),
        intercalate_append sep (each p) filled]

/-- What is in a joined text is in the separator or in a part. -/
theorem forall_mem_intercalate {p : α → Prop} {sep : List α} {parts : List (List α)} (other : ∀ c ∈ sep, p c)
    (each : ∀ q ∈ parts, ∀ c ∈ q, p c) : ∀ c ∈ sep.intercalate parts, p c := by
  induction parts with
  | nil => simp
  | cons q parts ih =>
    have rest := ih fun r mem => each r (List.mem_cons_of_mem _ mem)
    cases parts with
    | nil => simpa using each q (by simp)
    | cons r parts =>
      intro c mem
      rw [List.intercalate_cons_cons] at mem
      rcases List.mem_append.1 mem with front | later
      · rcases List.mem_append.1 front with first | between
        · exact each q (by simp) c first
        · exact other c between
      · exact rest c later

theorem not_mem_intercalate {c : α} {sep : List α} {parts : List (List α)} (other : c ∉ sep)
    (each : ∀ p ∈ parts, c ∉ p) : c ∉ sep.intercalate parts := by
  intro mem
  have differs : ∀ d ∈ sep.intercalate parts, d ≠ c :=
    forall_mem_intercalate (fun d within e => other (e ▸ within)) fun q within d inside e => each q within (e ▸ inside)
  exact differs c mem rfl

theorem infix_intercalate (sep : List α) {p : List α} {parts : List (List α)} (mem : p ∈ parts) :
    p <:+: sep.intercalate parts := by
  obtain ⟨before, after, rfl⟩ := List.append_of_mem mem
  have front : p <:+: sep.intercalate (p :: after) := by
    cases after with
    | nil => simp
    | cons q after => exact ⟨[], sep ++ sep.intercalate (q :: after), by simp [List.intercalate_cons_cons]⟩
  cases before with
  | nil => exact front
  | cons q before =>
    rw [intercalate_append sep (by simp) (by simp)]
    exact front.trans (List.suffix_append _ _).isInfix

theorem splitAt_eq_splitOn [DecidableEq α] (c : α) (s : List α) : splitAt c s = s.splitOn c := by
  induction s with
  | nil => rfl
  | cons d s ih =>
    rw [splitAt, List.splitOn_cons_eq_if_modifyHead, ih]
    simp only [beq_iff_eq]

theorem splitAt_of_not_mem [DecidableEq α] {c : α} {s : List α} (other : c ∉ s) : splitAt c s = [s] := by
  rw [splitAt_eq_splitOn, List.splitOn_eq_singleton other]

/-- The first occurrence of `c` ends the first piece. -/
theorem splitAt_append_cons [DecidableEq α] {c : α} {a : List α} (r : List α) (other : c ∉ a) :
    splitAt c (a ++ c :: r) = a :: splitAt c r := by
  rw [splitAt_eq_splitOn, List.splitOn_append_cons_self_of_not_mem other, ← splitAt_eq_splitOn]

/-- An occurrence of `c` ends a piece. -/
theorem splitAt_append [DecidableEq α] (c : α) (a b : List α) :
    splitAt c (a ++ c :: b) = splitAt c a ++ splitAt c b := by
  induction a with
  | nil => simp [splitAt]
  | cons d a ih =>
    simp only [List.cons_append, splitAt]
    split
    · rw [ih, List.cons_append]
    · obtain ⟨p, ps, pieces⟩ := List.exists_cons_of_ne_nil (splitAt_eq_splitOn c a ▸ List.splitOn_ne_nil c a)
      rw [ih, pieces, List.cons_append, List.modifyHead_cons, List.modifyHead_cons, List.cons_append]

theorem not_mem_of_mem_splitAt [DecidableEq α] {c : α} {s p : List α} (mem : p ∈ splitAt c s) : c ∉ p := by
  induction s generalizing p with
  | nil => simp_all [splitAt]
  | cons d s ih =>
    rw [splitAt] at mem
    split at mem
    · rcases List.mem_cons.1 mem with rfl | later
      · simp
      · exact ih later
    · next differs =>
      obtain ⟨q, ps, pieces⟩ := List.exists_cons_of_ne_nil (splitAt_eq_splitOn c s ▸ List.splitOn_ne_nil c s)
      rw [pieces] at ih mem
      rcases List.mem_cons.1 mem with rfl | later
      · simp [Ne.symm differs, ih List.mem_cons_self]
      · exact ih (List.mem_cons_of_mem _ later)

/-- **The pieces of a text** are what it is joined from, if `c` is in none of them. -/
theorem splitAt_eq_iff [DecidableEq α] {c : α} {s : List α} {parts : List (List α)} :
    splitAt c s = parts ↔ parts ≠ [] ∧ (∀ p ∈ parts, c ∉ p) ∧ s = [c].intercalate parts := by
  constructor
  · rintro rfl
    refine ⟨?_, fun p => not_mem_of_mem_splitAt, ?_⟩
    · rw [splitAt_eq_splitOn]
      exact List.splitOn_ne_nil c s
    · rw [splitAt_eq_splitOn, List.intercalate_splitOn]
  · rintro ⟨nonempty, other, rfl⟩
    rw [splitAt_eq_splitOn, List.splitOn_intercalate c other nonempty]

/-- The pieces of a text whose characters are replaced, if no other character becomes the one that cuts it. -/
theorem splitAt_map [DecidableEq α] {c : α} {f : α → α} (kept : ∀ d, f d = c ↔ d = c) (s : List α) :
    splitAt c (s.map f) = (splitAt c s).map (List.map f) := by
  induction s with
  | nil => rfl
  | cons d s ih =>
    rw [List.map_cons, splitAt, splitAt]
    by_cases cuts : d = c
    · rw [if_pos cuts, if_pos ((kept d).2 cuts), ih]
      rfl
    · rw [if_neg cuts, if_neg (mt (kept d).1 cuts), ih]
      cases splitAt c s with
      | nil => rfl
      | cons p ps => rfl

/-- A text is cut nowhere just if the character is not in it. -/
theorem splitOnce_eq_none_iff [DecidableEq α] {c : α} {s : List α} : splitOnce c s = none ↔ c ∉ s := by
  induction s with
  | nil => simp [splitOnce]
  | cons d s ih =>
    rw [splitOnce]
    split
    · next same => simp [same]
    · next differs => simp [ih, Ne.symm differs]

/-- Each piece is read just if all of them are. -/
theorem mapM_eq_some_iff {α β : Type} {f : α → Option β} {as : List α} {bs : List β} :
    as.mapM f = some bs ↔ as.map f = bs.map some := by
  induction as generalizing bs with
  | nil => cases bs <;> simp
  | cons a as ih =>
    rw [List.mapM_cons, List.map_cons]
    simp only [Option.bind_eq_bind, Option.pure_def, Option.bind_eq_some_iff, Option.some.injEq, ih]
    constructor
    · rintro ⟨b, first, others, rest, rfl⟩
      rw [first, rest, List.map_cons]
    · intro all
      cases bs with
      | nil => cases all
      | cons b bs =>
        obtain ⟨first, rest⟩ := List.cons.inj all
        exact ⟨b, first, bs, rest, rfl⟩

end Lookout.Text
