import Lookout.Json.Value
import Lookout.Test
import Lookout.Text.Blank

/-!
# Result messages

What is published about one test and one target. On the wire a message is a JSON object whose members
all are strings; a time is read as a string or as a whole number.
-/

namespace Lookout
set_option autoImplicit false
open Json

/-- How a test ended. -/
inductive Outcome where
  | passed
  | failed
deriving DecidableEq, Inhabited, Repr

namespace Outcome

def text : Outcome → String
  | passed => "passed"
  | failed => "failed"

def ofText? (s : String) : Option Outcome :=
  if s = "passed" then some passed else if s = "failed" then some failed else none

theorem ofText?_text (o : Outcome) : ofText? o.text = some o := by
  cases o <;> rfl

end Outcome

/-- What is published about one test and one target. -/
structure ResultMessage where
  /-- The line of the test, its secrets masked. -/
  input : String
  /-- The name of the probe. -/
  kind : String
  /-- The address that was probed, or the target as given if it was not resolved. -/
  target : String
  result : Outcome
  /-- Why the test failed. -/
  error? : Option String
  /-- Seconds since 1970. -/
  time : Int64
deriving DecidableEq

namespace ResultMessage

/-- The message about a test that is ready to be published. A reason makes it a failure. -/
def ofTest (t : Test) (failure : Option String) (time : Int64) : ResultMessage where
  input := t.input
  kind := t.kind
  target := t.target
  result := if failure.isSome then .failed else .passed
  error? := failure
  time := time

def passed (m : ResultMessage) : Bool :=
  m.result == .passed

/-- The members of a message on the wire, in their order. -/
def members (m : ResultMessage) : List (String × String) :=
  [("input", m.input), ("type", m.kind), ("target", m.target), ("result", m.result.text)]
    ++ (m.error?.map fun e => ("error", e)).toList
    ++ [("time", toString m.time.toInt)]

/-- The message on the wire. -/
def wire (m : ResultMessage) : Payload :=
  writeStrings m.members

/-- A member that must be a text. -/
def textOf? : Raw → Option String
  | .string s => Json.text? s
  | _ => none

/-- A member that may be null. -/
def optionalTextOf? : Raw → Option (Option String)
  | .null => some none
  | r => (textOf? r).map some

/-- An outcome: its name, or an object whose one member has that name and is null. -/
def outcomeOf? : Raw → Option Outcome
  | .string s => (Json.text? s).bind Outcome.ofText?
  | .object [(name, .null)] => (Json.text? name).bind Outcome.ofText?
  | _ => none

/-- A time: a whole number of 64 bits, or a text that is one when blanks around it are left out. -/
def timeOf? : Raw → Option Int64
  | .number n =>
    match Number.ofNumeral? n with
    | some (.nat n) => if n ≤ Text.maxInt64 then some (Int64.ofNat n) else none
    | some (.negative n) => some (Int64.ofInt (-(n : Int)))
    | _ => none
  | .string s => do
    let text ← Json.text? s
    let time ← (Text.readInt Text.maxInt64 (Text.trim text.toList)).toOption
    return Int64.ofInt time
  | _ => none

/-- The names of the members that a message is read from, in the order in which an array gives them. -/
def memberNames : List String :=
  ["input", "type", "target", "result", "error", "time"]

/-- The message with these members; an error may be missing. -/
def ofMembers? (get : String → Option Raw) : Option ResultMessage := do
  let input ← textOf? (← get "input")
  let kind ← textOf? (← get "type")
  let target ← textOf? (← get "target")
  let result ← outcomeOf? (← get "result")
  let error? ← ((get "error").map optionalTextOf?).getD (some none)
  let time ← timeOf? (← get "time")
  return { input, kind, target, result, error?, time }

/-- Reads a message: an object, in which other members do not count but none of a message's own may be
repeated, or an array of the six members. -/
def ofPayload? (p : Payload) : Option ResultMessage := do
  match ← Raw.ofPayload? p with
  | .object members =>
    let named ← members.mapM fun m => (Json.text? m.1).map (·, m.2)
    if memberNames.all fun name => named.countP (·.1 == name) ≤ 1 then ofMembers? fun name => named.lookup name else none
  | .array items =>
    if items.length = memberNames.length then ofMembers? fun name => (memberNames.zip items).lookup name
    else none
  | _ => none

end ResultMessage

end Lookout
