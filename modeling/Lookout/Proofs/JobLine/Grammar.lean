import Lookout.Proofs.JobLine.Words

/-!
# The grammar of lines

A line is words and blanks. A word stands bare, and then a blank or the end comes after it, or between two equal
quotes that it has not in it. Every text is a line of words in one way at most, and else it opens a quote after some
words that it does not close. `tokens?` tells which.
-/

namespace Lookout.JobLine
set_option autoImplicit false
open Text

/-- The text `s` begins with these words, and goes on with the text `r` where the next word can begin. -/
inductive Begins : (words : List (List Char)) → (s r : List Char) → Prop
  /-- Without a word. -/
  | done {r : List Char} : Begins [] r r
  /-- With a blank. -/
  | blank {c : Char} {words : List (List Char)} {s r : List Char} (blank : isBlank c = true)
      (later : Begins words s r) : Begins words (c :: s) r
  /-- With a bare word. -/
  | bare {w : List Char} {words : List (List Char)} {s r : List Char} (bare : isBare w = true)
      (ends : ∀ c ∈ s.head?, isBlank c = true) (later : Begins words s r) : Begins (w :: words) (w ++ s) r
  /-- With a word between quotes. -/
  | quoted {q : Char} {w : List Char} {words : List (List Char)} {s r : List Char} (quote : isQuote q = true)
      (inside : q ∉ w) (later : Begins words s r) : Begins (w :: words) (q :: (w ++ q :: s)) r

/-- The text is a line of these words. -/
def Line (words : List (List Char)) (s : List Char) : Prop :=
  Begins words s []

/-- After some words the text opens a quote that it does not close. -/
def LeftOpen (s : List Char) : Prop :=
  ∃ words q w, isQuote q = true ∧ q ∉ w ∧ Begins words s (q :: w)

variable {words words' : List (List Char)} {s r r' w : List Char}

theorem Begins.append (first : Begins words s r) (second : Begins words' r r') : Begins (words ++ words') s r' := by
  induction first with
  | done => exact second
  | blank blank _ ih => exact .blank blank (ih second)
  | bare bare ends _ ih => exact .bare bare ends (ih second)
  | quoted quote inside _ ih => exact .quoted quote inside (ih second)

/-- The words that a text begins with are read first. -/
theorem Begins.tokensFrom_eq (begins : Begins words s r) :
    tokensFrom .between s = (tokensFrom .between r).map (words ++ ·) := by
  induction begins with
  | done => simp
  | blank blank _ ih => simp [tokensFrom, blank, ih]
  | bare bare ends _ ih =>
    rw [tokensFrom_isBare bare ends, ih, Option.map_map]
    rfl
  | quoted quote inside _ ih =>
    rw [tokensFrom_quote quote inside, ih, Option.map_map]
    rfl

theorem tokensFrom_unclosed {q : Char} (inside : q ∉ s) (w : List Char) : tokensFrom (.quoted q w) s = none := by
  induction s generalizing w with
  | nil => rfl
  | cons c s ih =>
    rw [List.mem_cons, not_or] at inside
    simp [tokensFrom, Ne.symm inside.1, ih inside.2]

theorem tokens?_of_line (line : Line words s) : tokens? s = some words := by
  rw [tokens?, Begins.tokensFrom_eq line]
  simp [tokensFrom]

theorem tokens?_of_leftOpen (left : LeftOpen s) : tokens? s = none := by
  obtain ⟨words, q, w, quote, inside, begins⟩ := left
  rw [tokens?, begins.tokensFrom_eq]
  simp [tokensFrom, quote, isBlank_of_isQuote quote, tokensFrom_unclosed inside]

/-- A text that is not over has a blank or a word that comes first, or opens a quote that is left open. -/
theorem exists_begins (nonempty : s ≠ []) :
    (∃ words r, r.length < s.length ∧ Begins words s r) ∨ ∃ q w, isQuote q = true ∧ q ∉ w ∧ s = q :: w := by
  obtain ⟨c, s, rfl⟩ := List.exists_cons_of_ne_nil nonempty
  cases blank : isBlank c with
  | true => exact .inl ⟨[], s, by simp, .blank blank .done⟩
  | false =>
    cases quote : isQuote c with
    | true =>
      by_cases closed : c ∈ s
      · obtain ⟨w, r, rfl, inside⟩ := List.eq_append_cons_of_mem closed
        have shorter : r.length < (c :: (w ++ c :: r)).length := by
          simp only [List.length_cons, List.length_append]
          omega
        exact .inl ⟨[w], r, shorter, .quoted quote inside .done⟩
      · exact .inr ⟨c, s, quote, closed, rfl⟩
    | false =>
      let w := s.takeWhile fun d => !isBlank d
      let r := s.dropWhile fun d => !isBlank d
      have whole : s = w ++ r := List.takeWhile_append_dropWhile.symm
      have visible : ∀ d ∈ w, isBlank d = false := fun d mem => by simpa using List.mem_takeWhile_imp mem
      have bare : isBare (c :: w) = true := isBare_cons_iff.2 ⟨quote, blank, visible⟩
      have ends : ∀ d ∈ r.head?, isBlank d = true := by
        intro d mem
        have stop := List.head?_dropWhile_not (fun d => !isBlank d) s
        rw [Option.mem_def.1 mem] at stop
        simpa using stop
      refine .inl ⟨[c :: w], r, ?_, ?_⟩
      · rw [whole, List.length_cons, List.length_append]
        omega
      · rw [whole]
        exact .bare bare ends .done

/-- Every text is a line or leaves a quote open. -/
theorem line_or_leftOpen (s : List Char) : (∃ words, Line words s) ∨ LeftOpen s := by
  induction length : s.length using Nat.strongRecOn generalizing s with
  | ind n ih =>
    subst length
    by_cases ended : s = []
    · exact .inl ⟨[], ended ▸ .done⟩
    · rcases exists_begins ended with ⟨words, r, shorter, begins⟩ | ⟨q, w, quote, inside, rfl⟩
      · rcases ih r.length shorter r rfl with ⟨words', line⟩ | ⟨words', q, w, quote, inside, later⟩
        · exact .inl ⟨words ++ words', begins.append line⟩
        · exact .inr ⟨words ++ words', q, w, quote, inside, begins.append later⟩
      · exact .inr ⟨[], q, w, quote, inside, .done⟩

/-- **The words of a text** are those that it is a line of. -/
theorem tokens?_eq_some_iff : tokens? s = some words ↔ Line words s := by
  refine ⟨fun read => ?_, tokens?_of_line⟩
  rcases line_or_leftOpen s with ⟨words', line⟩ | left
  · rw [tokens?_of_line line] at read
    exact Option.some.inj read ▸ line
  · rw [tokens?_of_leftOpen left] at read
    cases read

end Lookout.JobLine
