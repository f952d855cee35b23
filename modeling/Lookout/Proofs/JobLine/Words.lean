import Lookout.JobLine
import Lookout.Proofs.Text.Joining
import Lookout.Proofs.Text.Trimming

/-!
# Lines and their words

Which words a line can have, and how a line is written that has given words: a word is written bare where that is
possible, and else between quotes that it has not in it. A word with both quotes in it has to be bare.
-/

namespace Lookout.JobLine
set_option autoImplicit false
open Text

/-- Whether a word can stand in a line as it is. -/
def isBare : List Char → Bool
  | [] => false
  | c :: r => !isQuote c && (c :: r).all fun d => !isBlank d

/-- A word that can stand in a line. -/
def Writable (w : List Char) : Prop :=
  isBare w = true ∨ '"' ∉ w ∨ '\'' ∉ w

/-- A word as it stands in a line. -/
def written (w : List Char) : List Char :=
  if isBare w then w else if '"' ∈ w then '\'' :: (w ++ ['\'']) else '"' :: (w ++ ['"'])

/-- A line of words. -/
def render (words : List (List Char)) : List Char :=
  [' '].intercalate (words.map written)

variable {w s r : List Char} {words : List (List Char)}

theorem render_singleton (w : List Char) : render [w] = written w := by
  simp [render]

/-- Two lines of words are joined with a blank. -/
theorem render_append {words' : List (List Char)} (nonempty : words ≠ []) (nonempty' : words' ≠ []) :
    render (words ++ words') = render words ++ ' ' :: render words' := by
  rw [render, List.map_append, intercalate_append _ (by simpa using nonempty) (by simpa using nonempty'),
    List.append_assoc]
  rfl

/-- A word is written as it is, with the same quote on both sides or none. -/
theorem written_eq (w : List Char) : ∃ q, written w = q ++ w ++ q ∧ ∀ c ∈ q, isQuote c = true := by
  unfold written
  split
  · exact ⟨[], by simp, by simp⟩
  · split
    · exact ⟨['\''], by simp, by simp [isQuote]⟩
    · exact ⟨['"'], by simp, by simp [isQuote]⟩

/-- A line of words has the characters of the words, and blanks and quotes. -/
theorem not_mem_render {c : Char} (notSpace : c ≠ ' ') (notQuote : isQuote c = false) (absent : ∀ w ∈ words, c ∉ w) :
    c ∉ render words := by
  refine not_mem_intercalate (by simpa using notSpace) ?_
  intro p mem
  obtain ⟨w, there, rfl⟩ := List.mem_map.1 mem
  obtain ⟨q, form, quotes⟩ := written_eq w
  have outside : c ∉ q := fun inside => by
    rw [quotes c inside] at notQuote
    cases notQuote
  simp [form, outside, absent w there]

theorem isBare_cons_iff {c : Char} :
    isBare (c :: r) = true ↔ isQuote c = false ∧ isBlank c = false ∧ ∀ d ∈ r, isBlank d = false := by
  simp [isBare]

theorem isBlank_of_isQuote {c : Char} (quote : isQuote c = true) : isBlank c = false := by
  simp only [isQuote, Bool.or_eq_true, beq_iff_eq] at quote
  rcases quote with rfl | rfl <;> decide

theorem isBare_append (bare : isBare w = true) (visible : ∀ d ∈ r, isBlank d = false) : isBare (w ++ r) = true := by
  cases w with
  | nil => cases bare
  | cons c w =>
    obtain ⟨plain, first, others⟩ := isBare_cons_iff.1 bare
    refine isBare_cons_iff.2 ⟨plain, first, ?_⟩
    intro d mem
    rcases List.mem_append.1 mem with old | new
    · exact others d old
    · exact visible d new

/-- What has been read of a word. -/
def TokenState.Fits : TokenState → Prop
  | .between => True
  | .bare w => isBare w.reverse = true
  | .quoted q w => isQuote q = true ∧ q ∉ w

theorem Writable.of_quoted {q : Char} (quote : isQuote q = true) (other : q ∉ w) : Writable w := by
  simp only [isQuote, Bool.or_eq_true, beq_iff_eq] at quote
  rcases quote with rfl | rfl
  · exact .inr (.inr other)
  · exact .inr (.inl other)

/-- Every word that is read can be written. -/
theorem writable_of_mem {t : TokenState} (fits : t.Fits) (read : tokensFrom t s = some words) :
    ∀ w ∈ words, Writable w := by
  induction s generalizing t words with
  | nil =>
    cases t with
    | between =>
      obtain rfl := Option.some.inj read
      simp
    | bare w =>
      obtain rfl := Option.some.inj read
      have whole : Writable w.reverse := .inl fits
      simpa using whole
    | quoted q w => cases read
  | cons c r ih =>
    have cut : ∀ {w}, Writable w → (tokensFrom .between r).map (w :: ·) = some words → ∀ u ∈ words, Writable u := by
      intro w whole read
      obtain ⟨others, later, rfl⟩ := Option.map_eq_some_iff.1 read
      intro u mem
      rcases List.mem_cons.1 mem with rfl | mem
      · exact whole
      · exact ih (t := .between) trivial later u mem
    cases t with
    | between =>
      simp only [tokensFrom] at read
      split at read
      · exact ih (t := .between) trivial read
      · next visible =>
        split at read
        · next quote => exact ih (t := .quoted c []) ⟨quote, by simp⟩ read
        · next plain =>
          have fits : isBare [c].reverse = true := by simp_all [isBare]
          exact ih (t := .bare [c]) fits read
    | bare w =>
      simp only [tokensFrom] at read
      split at read
      · exact cut (.inl fits) read
      · next visible =>
        have longer : isBare (c :: w).reverse = true := by
          rw [List.reverse_cons]
          exact isBare_append fits (by simpa using visible)
        exact ih (t := .bare (c :: w)) longer read
    | quoted q w =>
      obtain ⟨quote, other⟩ := fits
      simp only [tokensFrom] at read
      split at read
      · exact cut (.of_quoted quote (by simpa using other)) read
      · next differs => exact ih (t := .quoted q (c :: w)) ⟨quote, by simp [other, Ne.symm differs]⟩ read

theorem tokensFrom_bare {w : List Char} (visible : ∀ d ∈ s, isBlank d = false) (r : List Char) :
    tokensFrom (.bare w) (s ++ r) = tokensFrom (.bare (s.reverse ++ w)) r := by
  induction s generalizing w with
  | nil => rfl
  | cons c s ih =>
    rw [List.forall_mem_cons] at visible
    simp [tokensFrom, visible.1, ih visible.2]

theorem tokensFrom_quoted {q : Char} {w : List Char} (other : q ∉ s) (r : List Char) :
    tokensFrom (.quoted q w) (s ++ q :: r) = (tokensFrom .between r).map ((w.reverse ++ s) :: ·) := by
  induction s generalizing w with
  | nil => simp [tokensFrom]
  | cons c s ih =>
    rw [List.mem_cons, not_or] at other
    simp [tokensFrom, Ne.symm other.1, ih other.2]

/-- A quoted word is read up to its quote, whatever comes after it. -/
theorem tokensFrom_quote {q : Char} (quote : isQuote q = true) (other : q ∉ w) (r : List Char) :
    tokensFrom .between (q :: (w ++ q :: r)) = (tokensFrom .between r).map (w :: ·) := by
  simp [tokensFrom, quote, isBlank_of_isQuote quote, tokensFrom_quoted other]

/-- A bare word is read up to a blank or the end of the line. -/
theorem tokensFrom_isBare (bare : isBare w = true) (ends : ∀ c ∈ r.head?, isBlank c = true) :
    tokensFrom .between (w ++ r) = (tokensFrom .between r).map (w :: ·) := by
  cases w with
  | nil => cases bare
  | cons c w =>
    obtain ⟨plain, first, others⟩ := isBare_cons_iff.1 bare
    rw [List.cons_append]
    simp only [tokensFrom, first, plain, Bool.false_eq_true, if_false, tokensFrom_bare others]
    cases r with
    | nil => simp [tokensFrom]
    | cons d r => simp [tokensFrom, ends d rfl]

/-- A word that has been written is read again, up to a blank or the end of the line. -/
theorem tokensFrom_written (h : Writable w) (ends : ∀ c ∈ r.head?, isBlank c = true) :
    tokensFrom .between (written w ++ r) = (tokensFrom .between r).map (w :: ·) := by
  have quoted : ∀ q, isQuote q = true → q ∉ w →
      tokensFrom .between (q :: (w ++ [q]) ++ r) = (tokensFrom .between r).map (w :: ·) := by
    intro q quote other
    rw [← tokensFrom_quote quote other r]
    simp
  unfold written
  by_cases bare : isBare w = true
  · rw [if_pos bare]
    exact tokensFrom_isBare bare ends
  · rw [if_neg bare]
    by_cases double : '"' ∈ w
    · have single : '\'' ∉ w := h.resolve_left bare |>.resolve_left (absurd double ·)
      rw [if_pos double]
      exact quoted _ (by decide) single
    · rw [if_neg double]
      exact quoted _ (by decide) double

/-- **A line of words that can be written** has these words. -/
theorem tokens?_render (all : ∀ w ∈ words, Writable w) : tokens? (render words) = some words := by
  unfold tokens?
  induction words with
  | nil => rfl
  | cons w words ih =>
    rw [List.forall_mem_cons] at all
    have later := ih all.2
    cases words with
    | nil =>
      have one := tokensFrom_written (r := []) all.1 (by simp)
      simpa [render_singleton, tokensFrom] using one
    | cons u words =>
      have blank : isBlank ' ' = true := by decide
      rw [← List.singleton_append, render_append (by simp) (by simp), render_singleton,
        tokensFrom_written all.1 (by simp [blank])]
      simp [tokensFrom, blank, later]

/-- A word begins and ends with a character that can be seen, as it is written. -/
theorem written_visible (w : List Char) :
    written w ≠ [] ∧ (∀ c ∈ (written w).head?, isBlank c = false) ∧ ∀ c ∈ (written w).getLast?, isBlank c = false := by
  have visible : ∀ q : Char, isBlank q = false → q :: (w ++ [q]) ≠ [] ∧
      (∀ c ∈ (q :: (w ++ [q])).head?, isBlank c = false) ∧ ∀ c ∈ (q :: (w ++ [q])).getLast?, isBlank c = false := by
    intro q seen
    have last : (q :: (w ++ [q])).getLast? = some q := by rw [← List.cons_append, List.getLast?_concat]
    simp [seen, last]
  unfold written
  split
  · next bare =>
    cases w with
    | nil => cases bare
    | cons c w =>
      obtain ⟨-, first, others⟩ := isBare_cons_iff.1 bare
      have all : ∀ d ∈ c :: w, isBlank d = false := List.forall_mem_cons.2 ⟨first, others⟩
      exact ⟨by simp, fun d mem => all d (List.mem_of_head? mem), fun d mem => all d (List.mem_of_getLast? mem)⟩
  · split
    · exact visible _ (by decide)
    · exact visible _ (by decide)

theorem head?_render (w : List Char) (words : List (List Char)) :
    (render (w :: words)).head? = (written w).head? := by
  cases words with
  | nil => rw [render_singleton]
  | cons u words =>
    rw [← List.singleton_append, render_append (by simp) (by simp), render_singleton,
      List.head?_append_of_ne_nil _ (written_visible w).1]

/-- A line of words begins and ends with a character that can be seen. -/
theorem trim_render (words : List (List Char)) : trim (render words) = render words := by
  apply trim_eq_self
  · intro c mem
    cases words with
    | nil => cases mem
    | cons w words => exact (written_visible w).2.1 c (head?_render w words ▸ mem)
  · intro c mem
    rcases List.eq_nil_or_concat words with rfl | ⟨words, w, rfl⟩
    · cases mem
    · obtain ⟨nonempty, -, last⟩ := written_visible w
      have final : (render (words.concat w)).getLast? = (written w).getLast? := by
        rw [List.concat_eq_append]
        cases words with
        | nil => rw [List.nil_append, render_singleton]
        | cons u words =>
          rw [render_append (by simp) (by simp), render_singleton, List.append_cons,
            List.getLast?_append_of_ne_nil _ nonempty]
      exact last c (final ▸ mem)

/-- **The words that a line can have** are those that can be written. -/
theorem writable_iff : Writable w ↔ ∃ line words, tokens? line = some words ∧ w ∈ words := by
  constructor
  · intro h
    exact ⟨render [w], [w], tokens?_render (by simpa using h), by simp⟩
  · rintro ⟨line, words, read, mem⟩
    exact writable_of_mem (t := .between) trivial read w mem

end Lookout.JobLine
