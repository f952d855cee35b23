import Lookout.Queue.Pop
import Lookout.Router
import Lookout.Worker

/-!
# Consumers

Workers and routers take payloads off a queue, one after the other, until they are told to stop. They
look for that only between two payloads. After a pop that fails they pause.
-/

namespace Lookout
set_option autoImplicit false

/-- What a worker and a router have in common. -/
structure Consumer where
  /-- The queue that payloads are taken from. -/
  source : String
  /-- How long one wait for a payload lasts, in milliseconds. -/
  poll : Nat
  /-- What is done with a payload. -/
  handle : Payload → Activity Unit

def Worker.consumer (w : Worker) : Consumer where
  source := w.settings.jobsQueue
  poll := w.settings.poll
  handle := w.process

def Router.consumer (r : Router) : Consumer where
  source := r.source
  poll := r.poll
  handle payload := do let _ ← r.route payload

/-- The pause after a pop that failed, in milliseconds. -/
def pauseAfterFailure : Nat := 1000

/-- Where a consumer stands. -/
inductive Phase where
  /-- Between two payloads. -/
  | ready
  /-- Waiting for a payload. -/
  | popping (pop : Queue.Pop)
  /-- At work on a payload. -/
  | busy (work : Activity Unit)
  /-- At work on a payload, but waiting until a time. -/
  | asleep (till : Nat) (work : Activity Unit)
  /-- Pausing after a failed pop. -/
  | paused (till : Nat)
  /-- Told to stop, and has stopped. -/
  | stopped

end Lookout
