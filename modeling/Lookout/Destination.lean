import Lookout.Text.Blank
import Lookout.Text.Occurrence

/-!
# Destinations

A destination names a queue and the messages that belong there: `queue` takes every message,
`queue[field=value,...]` only those in which each named field has the given text.
-/

namespace Lookout
set_option autoImplicit false
open Text

/-- One condition on a message: `field` is present and reads exactly `value`. -/
structure Clause where
  field : String
  value : String
deriving DecidableEq, Inhabited

/-- A queue and the conditions, all of which a message must meet to be copied there. -/
structure Destination where
  queue : String
  clauses : List Clause := []
deriving DecidableEq, Inhabited

/-- Why a text is no destination. -/
inductive DestinationError where
  | emptyName (spec : String)
  | unclosed (spec : String)
  | trailingText (spec : String)
  | invalidClause (clause : String)
deriving DecidableEq

namespace DestinationError

def message : DestinationError → String
  | emptyName spec => "Destination has an empty queue name: '" ++ spec ++ "'"
  | unclosed spec => "Destination predicate is missing its closing ']': '" ++ spec ++ "'"
  | trailingText spec => "Unexpected text after destination predicate: '" ++ spec ++ "'"
  | invalidClause clause => "Predicate clause must be field=value, got '" ++ clause ++ "'"

end DestinationError

namespace Clause

/-- Reads `field=value`, cut at its first equals sign; blanks around both sides do not count. -/
def ofText (clause : List Char) : Except DestinationError Clause :=
  match splitOnce '=' clause with
  | some (field, value) =>
    if (trim field).isEmpty then .error (.invalidClause (String.ofList clause))
    else .ok ⟨String.ofList (trim field), String.ofList (trim value)⟩
  | none => .error (.invalidClause (String.ofList clause))

def text (c : Clause) : String :=
  c.field ++ "=" ++ c.value

end Clause

namespace Destination

/-- Reads what stands between the brackets: clauses separated by commas, empty ones passed over. -/
def readClauses (body : List Char) : Except DestinationError (List Clause) :=
  (((splitAt ',' body).map trim).filter (!·.isEmpty)).mapM Clause.ofText

/-- Reads a destination that has no blanks around it. -/
def ofTrimmed (spec : List Char) : Except DestinationError Destination :=
  match splitOnce '[' spec with
  | none =>
    if spec.isEmpty then .error (.emptyName (String.ofList spec))
    else if ']' ∈ spec then .error (.trailingText (String.ofList spec))
    else .ok ⟨String.ofList spec, []⟩
  | some (name, rest) =>
    if (trim name).isEmpty then .error (.emptyName (String.ofList spec))
    else
      match splitOnce ']' rest with
      | none => .error (.unclosed (String.ofList spec))
      | some (body, after) =>
        if (trim after).isEmpty then
          (readClauses body).map fun clauses => ⟨String.ofList (trim name), clauses⟩
        else .error (.trailingText (String.ofList spec))

/-- Reads a destination; blanks around it do not count. -/
def ofText (spec : String) : Except DestinationError Destination :=
  ofTrimmed (trim spec.toList)

/-- The destination in writing. -/
def text (d : Destination) : String :=
  if d.clauses.isEmpty then d.queue
  else d.queue ++ "[" ++ String.intercalate "," (d.clauses.map Clause.text) ++ "]"

end Destination

end Lookout
