import Lookout.Text.Numeral

/-!
# Tests

A test is one check to be made: which probe to run, against what, and with which arguments. There is one
value for each name of an argument, and the arguments are kept in the order of the names. Names are compared
by their characters' code points, which is also the order of their UTF-8 bytes. A probe reads a number from
an argument within the limit of what it stands for.
-/

namespace Lookout
set_option autoImplicit false

/-- Inserts into a sorted list; a value already there under the name gives way. -/
def insertEntry (name value : String) : List (String × String) → List (String × String)
  | [] => [(name, value)]
  | (n, v) :: r =>
    if name < n then (name, value) :: (n, v) :: r
    else if name = n then (name, value) :: r
    else (n, v) :: insertEntry name value r

theorem mem_insertEntry {name value : String} {l : List (String × String)} {e : String × String}
    (h : e ∈ insertEntry name value l) : e = (name, value) ∨ e ∈ l := by
  induction l with
  | nil => simpa [insertEntry] using h
  | cons p r ih =>
    obtain ⟨n, v⟩ := p
    simp only [insertEntry] at h
    split at h
    · simpa using h
    · split at h
      · exact (List.mem_cons.1 h).imp id (List.mem_cons_of_mem _)
      · rcases List.mem_cons.1 h with h | h
        · exact .inr (h ▸ List.mem_cons_self)
        · exact (ih h).imp id (List.mem_cons_of_mem _)

theorem insertEntry_sorted (name value : String) {l : List (String × String)}
    (h : l.Pairwise fun a b => a.1 < b.1) : (insertEntry name value l).Pairwise fun a b => a.1 < b.1 := by
  induction l with
  | nil => simp [insertEntry]
  | cons p r ih =>
    obtain ⟨n, v⟩ := p
    simp only [List.pairwise_cons] at h
    simp only [insertEntry]
    split
    · next lt =>
      refine List.pairwise_cons.2 ⟨?_, List.pairwise_cons.2 h⟩
      intro e he
      rcases List.mem_cons.1 he with rfl | he
      · exact lt
      · exact String.lt_trans lt (h.1 e he)
    · next nlt =>
      split
      · next eq => subst eq; exact List.pairwise_cons.2 h
      · next ne =>
        refine List.pairwise_cons.2 ⟨?_, ih h.2⟩
        intro e he
        rcases mem_insertEntry he with rfl | he
        · refine Decidable.byContradiction fun hn => ne ?_
          exact String.le_antisymm hn nlt
        · exact h.1 e he

/-- Arguments by name: at most one value for a name, names ascending. -/
structure Arguments where
  entries : List (String × String) := []
  sorted : entries.Pairwise (fun a b => a.1 < b.1) := by exact List.Pairwise.nil
deriving DecidableEq

namespace Arguments

def empty : Arguments := {}

instance : Inhabited Arguments := ⟨empty⟩

/-- Gives `name` the value `value`, in place of any earlier one. -/
def insert (a : Arguments) (name value : String) : Arguments :=
  ⟨insertEntry name value a.entries, insertEntry_sorted name value a.sorted⟩

/-- The value given to `name`. -/
def get? (a : Arguments) (name : String) : Option String :=
  a.entries.lookup name

/-- The arguments given by a list of clauses, read from the left. -/
def ofList (clauses : List (String × String)) : Arguments :=
  clauses.foldl (fun a c => a.insert c.1 c.2) empty

theorem lookup_insertEntry (name value key : String) (l : List (String × String)) :
    (insertEntry name value l).lookup key = if key = name then some value else l.lookup key := by
  induction l with
  | nil => by_cases h : key = name <;> simp [insertEntry, List.lookup_cons, beq_eq_false_iff_ne.2, h]
  | cons p r ih =>
    obtain ⟨n, v⟩ := p
    simp only [insertEntry]
    split
    · by_cases h : key = name <;> simp [List.lookup_cons, h, beq_eq_false_iff_ne.2]
    · split
      · next eq => subst eq; by_cases h : key = name <;> simp [List.lookup_cons, h, beq_eq_false_iff_ne.2]
      · next ne =>
        by_cases hk : key = n
        · subst hk; simp [Ne.symm ne]
        · simp [List.lookup_cons, beq_eq_false_iff_ne.2 hk, ih]

theorem get?_insert (a : Arguments) (name value key : String) :
    (a.insert name value).get? key = if key = name then some value else a.get? key :=
  lookup_insertEntry name value key a.entries

theorem get?_empty (key : String) : empty.get? key = none := rfl

/-- The last value given to a name is kept. -/
theorem get?_ofList (clauses : List (String × String)) (key : String) :
    (ofList clauses).get? key = clauses.reverse.lookup key := by
  have more : ∀ a : Arguments, (clauses.foldl (fun a c => a.insert c.1 c.2) a).get? key =
      (clauses.reverse.lookup key).or (a.get? key) := by
    induction clauses with
    | nil => simp
    | cons c clauses ih =>
      intro a
      obtain ⟨name, value⟩ := c
      rw [List.foldl_cons, ih, get?_insert, List.reverse_cons, List.lookup_append, Option.or_assoc]
      by_cases same : key = name
      · simp [same]
      · simp [same, List.lookup_cons, beq_eq_false_iff_ne.2]
  rw [ofList, more, get?_empty, Option.or_none]

end Arguments

/-- One check: run the probe `kind` against `target`. -/
structure Test where
  /-- The name of the probe. -/
  kind : String
  /-- A host name, a URI or any other name that the probe understands. -/
  target : String
  /-- The line that the test was read from; it may hold secrets. -/
  input : String := ""
  /-- The named parameters of the probe. -/
  arguments : Arguments := {}
deriving DecidableEq, Inhabited

namespace Test

/-- The argument `name`, where an empty value counts as no value. -/
def argument? (t : Test) (name : String) : Option String :=
  (t.arguments.get? name).filter (· != "")

end Test

/-- The argument `name` as a number of at most `limit`, or `fallback` if it is missing. -/
def numericArgument (t : Test) (name : String) (limit fallback : Nat) : Except String Nat :=
  match t.argument? name with
  | none => .ok fallback
  | some raw =>
    match Text.readNat limit raw.toList with
    | .ok n => .ok n
    | .error e => .error ("Invalid value '" ++ raw ++ "' for " ++ name ++ ": " ++ e.message)

end Lookout
