import Lookout.Activity
import Lookout.JobLine
import Lookout.Redaction
import Lookout.Resolver
import Lookout.ResultMessage

/-!
# Workers

A worker takes jobs off a queue, runs the probe of each against every address of its target, as often
as the retry policy says, and publishes one message for each address.
-/

namespace Lookout
set_option autoImplicit false

/-- What a worker needs to know besides the probes. Durations are in milliseconds. -/
structure WorkerSettings where
  jobsQueue : String := "vigil.jobs"
  resultsQueue : String := "vigil.results"
  retry : RetryPolicy := {}
  execution : ExecutionOptions := {}
  /-- How long one wait for a job lasts. -/
  poll : Nat := 1000
deriving DecidableEq, Inhabited

/-- A worker: the probes that it knows, the addresses that it probes, and its settings. -/
structure Worker where
  registry : Registry
  families : Families := {}
  settings : WorkerSettings := {}

namespace Worker

/-- Calls a probe until it passes, at most `more + 1` times with a wait between two calls. The last
failure counts. -/
def attempts (c : Call) (delay : Nat) : Nat → Activity (Option String)
  | 0 => .callProbe c
  | more + 1 => .call c fun
    | none => .done none
    | some _ => .wait delay fun _ => attempts c delay more

/-- Publishes a message. Whether it is accepted does not matter. -/
def publish (w : Worker) (m : ResultMessage) : Activity Unit := do
  let _ ← Activity.pushTo w.settings.resultsQueue m.wire
  return ()

/-- Publishes how a test went against one target. -/
def report (w : Worker) (t : Test) (target : String) (failure : Option String) : Activity ResultMessage := do
  let now ← Activity.currentTime
  let m := ResultMessage.ofTest (t.forTarget target) failure now
  w.publish m
  return m

/-- Runs a test against one target. -/
def probe (w : Worker) (t : Test) (target : String) : Activity ResultMessage := do
  let call : Call := { probe := t.kind, test := t, target, options := w.settings.execution }
  let failure ← attempts call w.settings.retry.delay (w.settings.retry.maxAttempts - 1)
  w.report t target failure

/-- Runs a test against targets one after the other. -/
def probeAll (w : Worker) (t : Test) : List String → Activity (List ResultMessage)
  | [] => .done []
  | target :: rest => do
    let m ← w.probe t target
    let ms ← w.probeAll t rest
    return m :: ms

/-- The targets of a test whose host is looked up. -/
def resolve (w : Worker) (t : Test) : Activity (Except ResolveError (List String)) :=
  match hostOf t.target with
  | .error e => .done (.error e)
  | .ok host => do return resolved w.families host (← Activity.lookupHost host)

/-- Runs a test and publishes its results, one for each target in order. A target that cannot be
resolved is one failure; a probe that is not registered has no result. -/
def execute (w : Worker) (t : Test) : Activity (List ResultMessage) :=
  match w.registry.get? t.kind with
  | none => .done []
  | some p =>
    if p.resolves then do
      match ← w.resolve t with
      | .error e => return [← w.report t t.target (some e.message)]
      | .ok targets => w.probeAll t targets
    else w.probeAll t [t.target]

/-- Runs the job that a payload is. One that is no job is dropped. -/
def process (w : Worker) (payload : Payload) : Activity Unit :=
  match payload.text? with
  | none => .done ()
  | some line =>
    match JobLine.parse w.registry line with
    | .ok (some t) => do let _ ← w.execute t
    | .ok none => .done ()
    | .error _ => .done ()

end Worker

end Lookout
