/-!
# TOML values

What a TOML document says. A table remembers how it came to be, since that decides whether more may be
put into it.
-/

namespace Lookout.Toml
set_option autoImplicit false

/-- How a table came to be. -/
inductive Form where
  /-- Written between braces. Nothing is added to it later. -/
  | inline
  /-- Named by a header of its own. -/
  | explicit
  /-- Named only on the way to another table by its header. -/
  | implicit
  /-- Named only on the way to a key by dots. -/
  | dotted
deriving DecidableEq, Repr

/-- A value. Of floating point numbers and of times only that they are there is kept. -/
inductive Value where
  | string (s : String)
  | integer (n : Int)
  | boolean (b : Bool)
  | float
  | time
  | array (items : List Value)
  | table (form : Form) (entries : List (String × Value))
  /-- An array of tables of which each has a header of its own. -/
  | tables (elements : List (List (String × Value)))

/-- The content of a table: keys and values. No key is there twice. -/
abbrev Entries := List (String × Value)

/-- Puts a value in the place of the one under the same key, or after all others. -/
def Entries.put (es : Entries) (key : String) (v : Value) : Entries :=
  if es.any (·.1 == key) then es.map fun e => if e.1 = key then (key, v) else e else es ++ [(key, v)]

/-- Changes the table at the end of a path, making the tables on the way that are missing. A path written
with dots must not lead through tables that have a header. -/
def within (dotted : Bool) (change : Form → Entries → Option Entries) :
    Form → List String → Entries → Option Entries
  | form, [], es => change form es
  | _, key :: path, es =>
    match es.lookup key with
    | none => do
      let made := if dotted then Form.dotted else Form.implicit
      return es ++ [(key, .table made (← within dotted change made path []))]
    | some (.table form inner) =>
      if form = .inline || (dotted && form = .explicit) then none
      else do return es.put key (.table form (← within dotted change form path inner))
    | some (.tables elements) =>
      match elements.getLast? with
      | none => none
      | some inner => do
        return es.put key (.tables (elements.dropLast ++ [← within dotted change .explicit path inner]))
    | some _ => none

/-- Gives a key its value. A key that is reached by dots goes into a table made by dots. -/
def assign (form : Form) (path : List String) (key : String) (v : Value) (es : Entries) : Option Entries :=
  within true (fun form es =>
    if (!path.isEmpty && form != .dotted) || (es.lookup key).isSome then none else some (es ++ [(key, v)]))
    form path es

/-- Begins a table by its header. It may have been named before only on the way to others. -/
def openTable (path : List String) (key : String) (es : Entries) : Option Entries :=
  within false (fun _ es =>
    match es.lookup key with
    | none => some (es ++ [(key, .table .explicit [])])
    | some (.table .implicit inner) => some (es.put key (.table .explicit inner))
    | some _ => none) .explicit path es

/-- Adds an element to an array of tables by its header. -/
def openElement (path : List String) (key : String) (es : Entries) : Option Entries :=
  within false (fun _ es =>
    match es.lookup key with
    | none => some (es ++ [(key, .tables [[]])])
    | some (.tables elements) => some (es.put key (.tables (elements ++ [[]])))
    | some _ => none) .explicit path es

end Lookout.Toml
