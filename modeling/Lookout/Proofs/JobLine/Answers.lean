import Lookout.Proofs.JobLine.Grammar
import Lookout.Proofs.JobLine.Reading
import Lookout.Proofs.JobLine.Validation

/-!
# The language of job lines

The answer to a line, whatever the line and the registry. Nothing of it is told by how a line is read: the words are
those of the grammar, an argument has the value of its last clause, and a line that holds no test has the first of
the faults that it can have: a quote that is left open, then another head than a target, `must run` and a kind, then a
bad clause, and then an argument that the probe does not take.
-/

namespace Lookout.JobLine
set_option autoImplicit false
open Text

/-- The line, without the blanks around it, is a line of these words. -/
def HasWords (line : String) (words : List String) : Prop :=
  Line (words.map String.toList) (trim line.toList)

/-- What is wrong with words that have to be clauses, but do not begin with one. -/
inductive BadClause (line : String) : List String → JobLineError → Prop
  | unexpected {word : String} {rest : List String} (other : word ≠ "with") :
      BadClause line (word :: rest) (.unexpectedToken word)
  | nameless : BadClause line ["with"] (.malformed line)
  | valueless {name : String} : BadClause line ["with", name] (.missingValue name)

/-- Why the words of a line hold no test. -/
inductive Refuses (registry : Registry) (line : String) : List String → JobLineError → Prop
  /-- They do not begin with a target, `must run` and a kind. -/
  | head {words : List String} (other : ∀ target kind rest, words ≠ target :: "must" :: "run" :: kind :: rest) :
      Refuses registry line words (.malformed line)
  /-- The words after some clauses are bad. -/
  | clause {target kind : String} {cs : List (String × String)} {rest : List String} {e : JobLineError}
      (bad : BadClause line rest e) : Refuses registry line (target :: "must" :: "run" :: kind :: (clauseWords cs ++ rest)) e
  /-- The probe of the kind does not take an argument, but all with smaller names. -/
  | argument {target kind name value : String} {cs : List (String × String)} {p : Probe} {e : JobLineError}
      (known : registry.get? kind = some p) (given : Arguments.Last cs name value) (bad : BadArgument p name value e)
      (earlier : ∀ name' value', name' < name → Arguments.Last cs name' value' → Admits p name' value') :
      Refuses registry line (target :: "must" :: "run" :: kind :: clauseWords cs) e

/-- The answer to a line, with this registry. -/
inductive Answers (registry : Registry) (line : String) : Except JobLineError (Option Test) → Prop
  /-- A blank line and a comment hold no test. -/
  | silent (silent : Silent line) : Answers registry line (.ok none)
  | leftOpen (speaks : ¬ Silent line) (left : LeftOpen (trim line.toList)) :
      Answers registry line (.error (.unterminatedQuote (trimmed line)))
  | refused {words : List String} {e : JobLineError} (speaks : ¬ Silent line) (worded : HasWords line words)
      (refused : Refuses registry (trimmed line) words e) : Answers registry line (.error e)
  /-- A test has the value of the last clause for each name, and if its kind is registered, the probe takes them all. -/
  | test {t : Test} {cs : List (String × String)} (speaks : ¬ Silent line)
      (worded : HasWords line (t.target :: "must" :: "run" :: t.kind :: clauseWords cs)) (input : t.input = trimmed line)
      (given : ∀ name value, t.arguments.get? name = some value ↔ Arguments.Last cs name value)
      (admitted : ∀ p, registry.get? t.kind = some p → ∀ name value, Arguments.Last cs name value → Admits p name value) :
      Answers registry line (.ok (some t))

variable {registry : Registry} {line : String} {words : List String} {e : JobLineError} {t : Test}

theorem hasWords_iff : HasWords line words ↔ tokens? (trim line.toList) = some (words.map String.toList) :=
  tokens?_eq_some_iff.symm

theorem parse_of_hasWords (speaks : ¬ Silent line) (worded : HasWords line words) :
    parse registry line = (ofWords registry (trimmed line) words).map some := by
  rw [parse_of_tokens speaks (hasWords_iff.1 worded)]
  simp

/-- Clauses cannot be read just if after some of them the words are bad. -/
theorem clauses_eq_error_iff :
    clauses line words = .error e ↔ ∃ cs rest, words = clauseWords cs ++ rest ∧ BadClause line rest e := by
  constructor
  · intro bad
    fun_induction clauses line words with
    | case1 => cases bad
    | case2 =>
      obtain rfl := Except.error.inj bad
      exact ⟨[], _, rfl, .nameless⟩
    | case3 name =>
      obtain rfl := Except.error.inj bad
      exact ⟨[], _, rfl, .valueless⟩
    | case4 name value rest ih =>
      cases later : clauses line rest with
      | ok others => simp [later, Except.map] at bad
      | error e' =>
        rw [later] at bad
        obtain rfl := Except.error.inj bad
        obtain ⟨cs, words, rfl, bad⟩ := ih later
        exact ⟨(name, value) :: cs, words, rfl, bad⟩
    | case5 word rest other =>
      obtain rfl := Except.error.inj bad
      exact ⟨[], _, rfl, .unexpected other⟩
  · rintro ⟨cs, rest, rfl, bad⟩
    rw [clauses_append]
    cases bad with
    | unexpected other =>
      unfold clauses
      simp [other, Except.map]
    | nameless => rfl
    | valueless => rfl

theorem ofWords_eq_error_iff : ofWords registry line words = .error e ↔ Refuses registry line words e := by
  constructor
  · intro bad
    unfold ofWords at bad
    split at bad
    · next target kind rest =>
      cases given : clauses line rest with
      | error e' =>
        simp only [given, bind, Except.bind, Except.error.injEq] at bad
        subst bad
        obtain ⟨cs, words, rfl, bad⟩ := clauses_eq_error_iff.1 given
        exact .clause bad
      | ok cs =>
        obtain rfl := eq_clauseWords given
        simp only [given, bind, Except.bind] at bad
        split at bad
        · next e' invalid =>
          obtain rfl := Except.error.inj bad
          obtain ⟨p, name, value, known, last, bad, earlier⟩ := validate_eq_error_iff.1 invalid
          simp only [Arguments.get?_ofList_eq_some_iff] at last earlier
          exact .argument known last bad earlier
        · cases bad
    · next other =>
      obtain rfl := Except.error.inj bad
      exact .head other
  · intro refuses
    cases refuses with
    | head other =>
      unfold ofWords
      split
      · next target kind rest => exact (other target kind rest rfl).elim
      · rfl
    | @clause target kind cs rest _ bad =>
      have unread := clauses_eq_error_iff.2 ⟨cs, rest, rfl, bad⟩
      simp [ofWords, unread, bind, Except.bind]
    | @argument target kind name value cs p _ known given bad earlier =>
      have invalid : validate registry { kind, target, input := line, arguments := .ofList cs } = .error e := by
        refine validate_eq_error_iff.2 ⟨p, name, value, known, ?_, bad, ?_⟩
        · exact Arguments.get?_ofList_eq_some_iff.2 given
        · exact fun name' value' less given' => earlier name' value' less (Arguments.get?_ofList_eq_some_iff.1 given')
      simp [ofWords, clauses_clauseWords, invalid, bind, Except.bind]

/-- A line has the answer that it gets. -/
theorem answers_parse (registry : Registry) (line : String) : Answers registry line (parse registry line) := by
  by_cases silent : Silent line
  · rw [parse_of_silent silent]
    exact .silent silent
  · rcases line_or_leftOpen (trim line.toList) with ⟨ws, is_line⟩ | left
    · have worded : HasWords line (ws.map String.ofList) := by
        unfold HasWords
        simpa using is_line
      rw [parse_of_hasWords silent worded]
      cases made : ofWords registry (trimmed line) (ws.map String.ofList) with
      | error e => exact .refused silent worded (ofWords_eq_error_iff.1 made)
      | ok t =>
        obtain ⟨cs, same, input, arguments, valid⟩ := ofWords_eq_ok_iff.1 made
        have given := Arguments.eq_ofList_iff.1 arguments
        rw [same] at worded
        refine .test silent worded input given fun p known name value last => ?_
        exact validate_eq_ok_iff.1 valid p known name value ((given name value).2 last)
    · rw [parse_of_unterminated silent (tokens?_of_leftOpen left)]
      exact .leftOpen silent left

/-- **The answer to a line** is the one that the language of job lines gives it. -/
theorem parse_eq_iff {answer : Except JobLineError (Option Test)} :
    parse registry line = answer ↔ Answers registry line answer := by
  constructor
  · rintro rfl
    exact answers_parse registry line
  · intro answers
    cases answers with
    | silent silent => exact parse_of_silent silent
    | leftOpen speaks left => exact parse_of_unterminated speaks (tokens?_of_leftOpen left)
    | refused speaks worded refused =>
      rw [parse_of_hasWords speaks worded, ofWords_eq_error_iff.2 refused]
      rfl
    | @test t cs speaks worded input given admitted =>
      have valid : validate registry t = .ok () :=
        validate_eq_ok_iff.2 fun p known name value got => admitted p known name value ((given name value).1 got)
      rw [parse_of_hasWords speaks worded, ofWords_eq_ok_iff.2 ⟨cs, rfl, input, Arguments.eq_ofList_iff.2 given, valid⟩]
      rfl

end Lookout.JobLine
