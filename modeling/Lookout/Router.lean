import Lookout.Activity
import Lookout.Destination
import Lookout.Json.Value

/-!
# Routers

A router takes messages off a queue and copies each, byte for byte, to the queue of every destination
that accepts it.
-/

namespace Lookout
set_option autoImplicit false

namespace Clause

/-- How the value of a member reads; members of other kinds cannot be asked for. -/
def valueText? : Json.Value → Option String
  | .string s => some s
  | .number n => some n.text
  | .bool b => some (if b then "true" else "false")
  | _ => none

/-- Whether a message meets the condition. -/
def holds (c : Clause) (message : List (String × Json.Value)) : Bool :=
  ((Json.member? message c.field).bind valueText?) == some c.value

end Clause

/-- Whether a destination accepts a message. -/
def Destination.accepts (d : Destination) (message : List (String × Json.Value)) : Bool :=
  d.clauses.all (·.holds message)

/-- A router: where it takes messages from, where they may go, and how long one wait for a message
lasts, in milliseconds. -/
structure Router where
  source : String
  destinations : List Destination
  poll : Nat := 1000

namespace Router

/-- The queues that a message goes to; none if the payload is no JSON object. -/
def select? (r : Router) (payload : Payload) : Option (List String) :=
  (Json.object? payload).map fun message =>
    (r.destinations.filter (·.accepts message)).map Destination.queue

/-- Pushes a payload to queues one after the other. The result is how many accepted it. -/
def pushAll (payload : Payload) : List String → Activity Nat
  | [] => .done 0
  | queue :: rest => do
    let accepted ← Activity.pushTo queue payload
    let more ← pushAll payload rest
    return (if accepted then 1 else 0) + more

/-- Copies a message to where it belongs. The result is how many copies were accepted. -/
def route (r : Router) (payload : Payload) : Activity Nat :=
  match r.select? payload with
  | none => .done 0
  | some queues => pushAll payload queues

end Router

end Lookout
