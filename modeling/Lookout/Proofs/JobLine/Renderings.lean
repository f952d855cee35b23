import Lookout.Proofs.JobLine.Answers

/-!
# Renderings of words

How words can be written as a line: blanks, and then one word after the other, bare or between two equal quotes, with
blanks behind it. A bare word needs a blank before anything that follows it, a quoted one does not. Words are read from
the lines in which they are written so, and from no others. No words are read from a line just if a quote is opened where
a word can begin and does not occur again.
-/

namespace Lookout.JobLine
set_option autoImplicit false
open Text

/-- A word as it stands in a line. -/
structure Placed where
  word : List Char
  /-- The quote on both sides of the word; none if it is bare. -/
  quote? : Option Char
  /-- The blanks behind the word. -/
  gap : List Char
  bare : quote? = none → isBare word = true
  quoted : ∀ q ∈ quote?, isQuote q = true ∧ q ∉ word
  blank : AllBlank gap

namespace Placed

/-- The word in writing, with its quotes and the blanks behind it. -/
def text (p : Placed) : List Char :=
  p.quote?.toList ++ p.word ++ p.quote?.toList ++ p.gap

/-- Something else can follow: a blank does so already, or a quote has been closed. -/
def Ended (p : Placed) : Prop :=
  p.quote? = none → p.gap ≠ []

/-- A word begins with a character that can be seen, as it is written. -/
theorem exists_text_eq_cons (p : Placed) : ∃ c t, p.text = c :: t ∧ isBlank c = false := by
  cases quote : p.quote? with
  | none =>
    have bare := p.bare quote
    cases word : p.word with
    | nil =>
      rw [word] at bare
      cases bare
    | cons c w =>
      rw [word] at bare
      exact ⟨c, w ++ p.gap, by simp [text, quote, word], (isBare_cons_iff.1 bare).2.1⟩
  | some q =>
    have isQuote := (p.quoted q quote).1
    exact ⟨q, p.word ++ q :: p.gap, by simp [text, quote], isBlank_of_isQuote isQuote⟩

end Placed

/-- Every word that another word or the text `r` follows has ended. -/
def Spaced (r : List Char) : List Placed → Prop
  | [] => True
  | p :: ps => (ps ≠ [] ∨ r ≠ [] → p.Ended) ∧ Spaced r ps

/-- The line `s` is written as blanks, these words and the text `r`. -/
def Renders (places : List Placed) (r s : List Char) : Prop :=
  Spaced r places ∧ ∃ lead, AllBlank lead ∧ s = lead ++ (places.flatMap Placed.text ++ r)

/-- Where a word can begin, the line opens a quote that does not occur again. -/
def Unclosed (s : List Char) : Prop :=
  ∃ places q w, isQuote q = true ∧ q ∉ w ∧ Renders places (q :: w) s

variable {words : List (List Char)} {places : List Placed} {s r : List Char}

theorem Begins.blanks {w : List Char} (blank : AllBlank w) (later : Begins words s r) : Begins words (w ++ s) r := by
  induction w with
  | nil => exact later
  | cons c w ih =>
    have both := List.forall_mem_cons.1 blank
    exact .blank both.1 (ih both.2)

/-- Words that are written one after the other come first in the line. -/
theorem begins_of_spaced (spaced : Spaced r places) :
    Begins (places.map Placed.word) (places.flatMap Placed.text ++ r) r := by
  induction places with
  | nil => exact .done
  | cons p ps ih =>
    obtain ⟨ended, spaced⟩ := spaced
    have later := Begins.blanks p.blank (ih spaced)
    cases quote : p.quote? with
    | none =>
      have ends : ∀ c ∈ (p.gap ++ (ps.flatMap Placed.text ++ r)).head?, isBlank c = true := by
        intro c mem
        cases gap : p.gap with
        | nil =>
          -- nothing follows a bare word that has no blank behind it
          have last : ps = [] ∧ r = [] := by
            by_contra more
            rw [not_and_or] at more
            exact ended more quote gap
          simp [gap, last.1, last.2] at mem
        | cons d gap' =>
          obtain rfl : d = c := by simpa [gap] using mem
          exact p.blank d (by simp [gap])
      have form : (p :: ps).flatMap Placed.text ++ r = p.word ++ (p.gap ++ (ps.flatMap Placed.text ++ r)) := by
        simp [Placed.text, quote]
      rw [form]
      exact .bare (p.bare quote) ends later
    | some q =>
      obtain ⟨isQuote, inside⟩ := p.quoted q quote
      have form : (p :: ps).flatMap Placed.text ++ r =
          q :: (p.word ++ q :: (p.gap ++ (ps.flatMap Placed.text ++ r))) := by
        simp [Placed.text, quote]
      rw [form]
      exact .quoted isQuote inside later

/-- If the rest of a line begins with a character that can be seen, so does what the words and the rest are. -/
theorem head_flatMap_text (visible : ∀ c ∈ r.head?, isBlank c = false) (places : List Placed) :
    ∀ c ∈ (places.flatMap Placed.text ++ r).head?, isBlank c = false := by
  cases places with
  | nil => exact visible
  | cons p ps =>
    obtain ⟨d, t, form, seen⟩ := p.exists_text_eq_cons
    intro c mem
    obtain rfl : d = c := by simpa [form] using mem
    exact seen

/-- Where a blank comes before what follows, there are blanks in front of it. -/
theorem ne_nil_of_ends {lead : List Char} (visible : ∀ c ∈ r.head?, isBlank c = false)
    (ends : ∀ c ∈ (lead ++ (places.flatMap Placed.text ++ r)).head?, isBlank c = true) (more : places ≠ [] ∨ r ≠ []) :
    lead ≠ [] := by
  rintro rfl
  have nonempty : places.flatMap Placed.text ++ r ≠ [] := by
    intro empty
    obtain ⟨unplaced, ended⟩ := List.append_eq_nil_iff.1 empty
    rcases more with more | more
    · obtain ⟨p, ps, rfl⟩ := List.exists_cons_of_ne_nil more
      obtain ⟨c, t, form, -⟩ := p.exists_text_eq_cons
      simp [form] at unplaced
    · exact more ended
  obtain ⟨c, t, form⟩ := List.exists_cons_of_ne_nil nonempty
  have seen := head_flatMap_text visible places c (by simp [form])
  rw [ends c (by simp [form])] at seen
  cases seen

/-- Words that come first in a line are written one after the other in it. -/
theorem exists_renders (begins : Begins words s r) (visible : ∀ c ∈ r.head?, isBlank c = false) :
    ∃ places, places.map Placed.word = words ∧ Renders places r s := by
  induction begins with
  | done => exact ⟨[], rfl, trivial, [], by simp [AllBlank], rfl⟩
  | @blank c _ _ _ blank _ ih =>
    obtain ⟨places, same, spaced, lead, front, rfl⟩ := ih visible
    exact ⟨places, same, spaced, c :: lead, List.forall_mem_cons.2 ⟨blank, front⟩, rfl⟩
  | @bare w _ _ _ bare ends _ ih =>
    obtain ⟨places, same, spaced, lead, front, rfl⟩ := ih visible
    let p : Placed := ⟨w, none, lead, fun _ => bare, by simp, front⟩
    refine ⟨p :: places, by simp [p, same], ⟨?_, spaced⟩, [], by simp [AllBlank], by simp [p, Placed.text]⟩
    exact fun more _ => ne_nil_of_ends visible ends more
  | @quoted q w _ _ _ quote inside _ ih =>
    obtain ⟨places, same, spaced, lead, front, rfl⟩ := ih visible
    let p : Placed := ⟨w, some q, lead, by simp, by simp [quote, inside], front⟩
    refine ⟨p :: places, by simp [p, same], ⟨?_, spaced⟩, [], by simp [AllBlank], by simp [p, Placed.text]⟩
    rintro - ⟨⟩

theorem begins_iff (visible : ∀ c ∈ r.head?, isBlank c = false) :
    Begins words s r ↔ ∃ places, places.map Placed.word = words ∧ Renders places r s := by
  refine ⟨fun begins => exists_renders begins visible, ?_⟩
  rintro ⟨places, rfl, spaced, lead, front, rfl⟩
  exact .blanks front (begins_of_spaced spaced)

theorem leftOpen_iff : LeftOpen s ↔ Unclosed s := by
  have visible : ∀ (q : Char) (w : List Char), isQuote q = true → ∀ c ∈ (q :: w).head?, isBlank c = false := by
    intro q w quote c mem
    obtain rfl : q = c := by simpa using mem
    exact isBlank_of_isQuote quote
  constructor
  · rintro ⟨words, q, w, quote, inside, begins⟩
    obtain ⟨places, -, renders⟩ := exists_renders begins (visible q w quote)
    exact ⟨places, q, w, quote, inside, renders⟩
  · rintro ⟨places, q, w, quote, inside, renders⟩
    exact ⟨_, q, w, quote, inside, (begins_iff (visible q w quote)).2 ⟨places, rfl, renders⟩⟩

/-- A text has no words if a quote is left open in it, and only then. -/
theorem tokens?_eq_none_iff : tokens? s = none ↔ Unclosed s := by
  rw [← leftOpen_iff]
  refine ⟨fun unread => ?_, tokens?_of_leftOpen⟩
  rcases line_or_leftOpen s with ⟨words, line⟩ | left
  · rw [tokens?_of_line line] at unread
    cases unread
  · exact left

/-- A quote that is left open is what is wrong with a line if it is neither blank nor a comment. -/
theorem parse_eq_unterminated_iff {registry : Registry} {line quoted : String} :
    parse registry line = .error (.unterminatedQuote quoted) ↔
      ¬ Silent line ∧ Unclosed (trim line.toList) ∧ quoted = trimmed line := by
  constructor
  · intro read
    have answers := answers_parse registry line
    rw [read] at answers
    cases answers with
    | leftOpen speaks left => exact ⟨speaks, leftOpen_iff.1 left, rfl⟩
    | refused speaks worded refused =>
      -- words that have been read are refused for other reasons
      cases refused with
      | clause bad => cases bad
      | argument known given bad earlier => cases bad
  · rintro ⟨speaks, unclosed, rfl⟩
    exact parse_of_unterminated speaks (tokens?_eq_none_iff.2 unclosed)

/-- **The words of a text** are those that are written one after the other in it. It has no words just if a quote is left
open where a word can begin, and then a line is refused for this quote. -/
theorem tokens_rendered (s : List Char) (words : List (List Char)) :
    (tokens? s = some words ↔ ∃ places, places.map Placed.word = words ∧ Renders places [] s) ∧
      (tokens? s = none ↔ Unclosed s) ∧
      ∀ registry line quoted, parse registry line = .error (.unterminatedQuote quoted) ↔
        ¬ Silent line ∧ Unclosed (trim line.toList) ∧ quoted = trimmed line := by
  refine ⟨?_, tokens?_eq_none_iff, fun _ _ _ => parse_eq_unterminated_iff⟩
  rw [tokens?_eq_some_iff, Line]
  exact begins_iff (by simp)

/-- Quotes within a bare word, an empty word, and a bare word right behind a closing quote. -/
example : tokens? "it's \"\"'a \"b'c ".toList = some ["it's".toList, [], "a \"b".toList, ['c']] := by
  decide

end Lookout.JobLine
