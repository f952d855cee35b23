import Lookout.Address
import Lookout.Payload
import Lookout.Retry
import Lookout.Test

/-!
# Activities

What a worker or a router does is a value: the next effect that it asks for, and how it goes on by each
answer. Who runs an activity gives the answers; the activity itself does nothing.
-/

namespace Lookout
set_option autoImplicit false

/-- A call of a probe. -/
structure Call where
  probe : String
  test : Test
  target : String
  options : ExecutionOptions
deriving DecidableEq, Inhabited

/-- Something to do that ends with a result. -/
inductive Activity (α : Type) where
  /-- Nothing is left to do. -/
  | done (result : α)
  /-- Looks up the addresses of a host; no answer if the lookup fails. -/
  | lookup (host : String) (next : Option (List Address) → Activity α)
  /-- Calls a probe; the answer is why it failed, if it did. -/
  | call (c : Call) (next : Option String → Activity α)
  /-- Waits for some milliseconds. -/
  | wait (duration : Nat) (next : Unit → Activity α)
  /-- Asks for the time, in seconds since 1970. -/
  | time (next : Int64 → Activity α)
  /-- Appends to a queue; the answer is whether it was accepted. -/
  | push (queue : String) (payload : Payload) (next : Bool → Activity α)

namespace Activity

variable {α β : Type}

/-- Goes on with `f` after `a`. -/
def andThen (a : Activity α) (f : α → Activity β) : Activity β :=
  match a with
  | done r => f r
  | lookup host next => lookup host fun x => (next x).andThen f
  | call c next => call c fun x => (next x).andThen f
  | wait d next => wait d fun x => (next x).andThen f
  | time next => time fun x => (next x).andThen f
  | push q p next => push q p fun x => (next x).andThen f

instance : Monad Activity where
  pure := done
  bind := andThen

/-- Lookup of a host. -/
def lookupHost (host : String) : Activity (Option (List Address)) := lookup host done
/-- One call of a probe. -/
def callProbe (c : Call) : Activity (Option String) := call c done
/-- The time. -/
def currentTime : Activity Int64 := time done
/-- One push. -/
def pushTo (queue : String) (payload : Payload) : Activity Bool := push queue payload done

end Activity

end Lookout
