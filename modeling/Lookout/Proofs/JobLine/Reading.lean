import Lookout.JobLine
import Lookout.Proofs.JobLine.Words

/-!
# Lines that hold a test

What it takes for a line to be read as a test: its words are a target, `must run`, a kind and clauses
`with <name> <value>`. The test keeps the last value of each name, and the whole line.
-/

namespace Lookout.JobLine
set_option autoImplicit false
open Text

/-- The words of clauses. -/
def clauseWords (cs : List (String × String)) : List String :=
  cs.flatMap fun c => ["with", c.1, c.2]

/-- The line asks for the kind to be run against the target, with these clauses in this order. -/
def Asks (line target kind : String) (cs : List (String × String)) : Prop :=
  tokens? (trim line.toList) = some ((target :: "must" :: "run" :: kind :: clauseWords cs).map String.toList)

/-- The line is blank or a comment. -/
def Silent (line : String) : Prop :=
  trim line.toList = [] ∨ (trim line.toList).head? = some '#'

instance : DecidablePred Silent := fun line =>
  inferInstanceAs (Decidable (trim line.toList = [] ∨ (trim line.toList).head? = some '#'))

variable {registry : Registry} {line target kind : String} {cs cs' : List (String × String)} {t : Test}

theorem clauseWords_cons (name value : String) (cs : List (String × String)) :
    clauseWords ((name, value) :: cs) = "with" :: name :: value :: clauseWords cs := rfl

/-- Clauses are read one after the other, up to words that are no clause. -/
theorem clauses_append (line : String) (cs : List (String × String)) (rest : List String) :
    clauses line (clauseWords cs ++ rest) = (clauses line rest).map (cs ++ ·) := by
  induction cs with
  | nil =>
    change clauses line rest = _
    cases clauses line rest <;> rfl
  | cons c cs ih =>
    rw [clauseWords_cons, List.cons_append, List.cons_append, List.cons_append, clauses, if_pos rfl, ih]
    cases clauses line rest <;> rfl

theorem clauses_clauseWords (line : String) (cs : List (String × String)) : clauses line (clauseWords cs) = .ok cs := by
  simpa [clauses, Except.map] using clauses_append line cs []

theorem eq_clauseWords {words : List String} (read : clauses line words = .ok cs) : words = clauseWords cs := by
  fun_induction clauses line words generalizing cs with
  | case1 =>
    obtain rfl := Except.ok.inj read
    rfl
  | case2 => cases read
  | case3 => cases read
  | case4 name value rest ih =>
    cases later : clauses line rest with
    | error e => simp [later, Except.map] at read
    | ok others =>
      rw [later] at read
      obtain rfl := Except.ok.inj read
      rw [ih later]
      rfl
  | case5 => cases read

theorem Asks.unique (h : Asks line target kind cs) (h' : Asks line target kind cs') : cs = cs' := by
  unfold Asks at h h'
  have same : clauseWords cs = clauseWords cs' := by
    have words := List.map_injective_iff.2 (fun _ _ => String.toList_inj.1) (Option.some.inj (h.symm.trans h'))
    simpa using words
  have read := clauses_clauseWords line cs
  rw [same, clauses_clauseWords] at read
  exact (Except.ok.inj read).symm

/-- The value of a clause is a word of the line. -/
theorem Asks.writable {name value : String} (h : Asks line target kind cs) (mem : (name, value) ∈ cs) :
    Writable value.toList := by
  have word : value ∈ clauseWords cs := List.mem_flatMap.2 ⟨_, mem, by simp⟩
  exact writable_iff.2 ⟨_, _, h, List.mem_map_of_mem (by simp [word])⟩

theorem parse_of_silent (silent : Silent line) : parse registry line = .ok none := by
  unfold parse
  rcases silent with blank | comment
  · simp [blank]
  · simp [comment]

theorem parse_of_tokens {words : List (List Char)} (speaks : ¬ Silent line)
    (read : tokens? (trim line.toList) = some words) :
    parse registry line = (ofWords registry (trimmed line) (words.map String.ofList)).map some := by
  have visible : ((trim line.toList).isEmpty || (trim line.toList).head? == some '#') = false := by
    simpa [Silent] using speaks
  simp [parse, visible, read, trimmed]

theorem parse_of_unterminated (speaks : ¬ Silent line) (unread : tokens? (trim line.toList) = none) :
    parse registry line = .error (.unterminatedQuote (trimmed line)) := by
  have visible : ((trim line.toList).isEmpty || (trim line.toList).head? == some '#') = false := by
    simpa [Silent] using speaks
  simp [parse, visible, unread, trimmed]

/-- A line is passed over only if it is blank or a comment. -/
theorem parse_eq_none_iff : parse registry line = .ok none ↔ Silent line := by
  refine ⟨fun read => Decidable.byContradiction fun speaks => ?_, parse_of_silent⟩
  cases words : tokens? (trim line.toList) with
  | none =>
    rw [parse_of_unterminated speaks words] at read
    cases read
  | some words' =>
    rw [parse_of_tokens speaks words] at read
    cases made : ofWords registry (trimmed line) (words'.map String.ofList) with
    | error e => simp [made, Except.map] at read
    | ok t => simp [made, Except.map] at read

/-- The blanks around a line do not count. -/
theorem parse_trimmed (registry : Registry) (line : String) : parse registry (trimmed line) = parse registry line := by
  unfold parse
  rw [show trim (trimmed line).toList = trim line.toList by rw [trimmed, String.toList_ofList, trim_trim]]

/-- The words of a test. -/
theorem ofWords_eq_ok_iff {words : List String} :
    ofWords registry line words = .ok t ↔ ∃ cs, words = t.target :: "must" :: "run" :: t.kind :: clauseWords cs ∧
      t.input = line ∧ t.arguments = .ofList cs ∧ validate registry t = .ok () := by
  constructor
  · intro read
    unfold ofWords at read
    split at read
    · next target kind rest =>
      cases given : clauses line rest with
      | error e => simp [given, bind, Except.bind] at read
      | ok cs =>
        simp only [given, bind, Except.bind] at read
        split at read
        · cases read
        · next valid =>
          obtain rfl := Except.ok.inj read
          exact ⟨cs, by rw [eq_clauseWords given], rfl, rfl, valid⟩
    · cases read
  · rintro ⟨cs, rfl, rfl, arguments, valid⟩
    obtain ⟨kind, target, input, args⟩ := t
    obtain rfl : args = .ofList cs := arguments
    simp only [ofWords, clauses_clauseWords, bind, Except.bind, valid]
    rfl

/-- **When a line is read as a test**, and as which one. -/
theorem parse_eq_some_iff :
    parse registry line = .ok (some t) ↔ ¬ Silent line ∧ ∃ cs, Asks line t.target t.kind cs ∧
      t.input = trimmed line ∧ t.arguments = .ofList cs ∧ validate registry t = .ok () := by
  by_cases silent : Silent line
  · rw [parse_of_silent silent]
    simp [silent]
  · simp only [silent, not_false_eq_true, true_and, Asks]
    cases read : tokens? (trim line.toList) with
    | none => simp [parse_of_unterminated silent read]
    | some words =>
      have back : ∀ us : List String, words = us.map String.toList ↔ words.map String.ofList = us := by
        intro us
        constructor
        · rintro rfl
          simp
        · rintro rfl
          simp
      rw [parse_of_tokens silent read]
      simp only [Option.some.injEq, back, ← ofWords_eq_ok_iff]
      cases ofWords registry (trimmed line) (words.map String.ofList) <;> simp [Except.map]

/-- The line that a test keeps asks for the same test. -/
theorem parse_input (read : parse registry line = .ok (some t)) : parse registry t.input = .ok (some t) := by
  obtain ⟨-, cs, -, input, -, -⟩ := parse_eq_some_iff.1 read
  rw [input, parse_trimmed, read]

end Lookout.JobLine
