import Lookout.CommandLine
import Lookout.Configuration.File
import Lookout.Enqueue
import Lookout.Logging
import Lookout.Probe.Bundled
import Lookout.Redis.Connection
import Lookout.Simulation

/-!
# The program

What the program does from its first word to its exit: it reads its configuration, and writes one if there
is none; then it does what it is told and reports what went wrong.
-/

namespace Lookout
set_option autoImplicit false

/-- What the program finds when it is run. -/
structure Machine where
  network : Network
  files : Files.Tree := {}
  environment : Kube.Environment := []
  /-- The queues of the server and everything else that consumers act on. -/
  queues : Simulation.World := {}
  /-- When a worker or a router is told to stop, in milliseconds. -/
  stopAfter : Nat := 0

/-- What the program leaves behind. -/
structure Ending where
  exit : Nat := 0
  stdout : String := ""
  stderr : String := ""
  files : Files.Tree
  queues : Simulation.World

namespace Program

/-- The name of the program, or of one of its commands, and its version. -/
def versionText (command : Option String) : String :=
  "vigil-cli" ++ (match command with | some name => "-" ++ name | none => "") ++ " 0.1.0\n"

def usageText : String :=
  "Usage: vigil [OPTIONS] <COMMAND>\n"

/-- How the uses of probes are shown. -/
def usesText (probes : List Probe) : String :=
  String.join (probes.map fun p => String.ofList (Text.trimEnd p.usage.toList) ++ "\n\n")

/-- The uses of the bundled probes, or of the one that is asked for. -/
def examples (kind : Option String) : Except (List String) String :=
  let r := Registry.bundled
  match kind with
  | none => .ok (usesText (r.names.filterMap r.get?))
  | some kind =>
    match r.get? kind with
    | some p => .ok (usesText [p])
    | none =>
      .error ["Unknown test type '" ++ kind ++ "'; known: " ++ String.intercalate ", " r.names]

/-- The configuration, and the files after it was read. Where there is none it is written; whether that
succeeds does not matter. -/
def configure (m : Machine) (cl : CommandLine) :
    Except ConfigurationError (Configuration × Files.Tree) := do
  let path ← Configuration.locate (fun name => m.environment.lookup name) cl.config
  match ← Configuration.load m.files path with
  | some c => return (c, m.files)
  | none =>
    let c : Configuration := {}
    return (c, (c.save m.files path).2)

/-- A configuration with what the command line says otherwise. -/
def configured (cl : CommandLine) (c : Configuration) : Configuration :=
  cl.task.apply (if cl.verbose then { c with worker := { c.worker with verbose := true } } else c)

/-- Connects to the server of the queues. -/
def connect (m : Machine) (c : Configuration) : Except (List String) Unit :=
  match Redis.connect m.network c.redisOptions with
  | .ok _ => .ok ()
  | .error e => .error (("Failed to connect to Redis at " ++ c.redis.host) :: e.messages)

/-- The consumer that a worker is. -/
def workerOf (c : Configuration) : Worker where
  registry := .bundled
  families := c.families
  settings := c.workerSettings

/-- The consumer that a router is. There must be destinations. -/
def routerOf (c : Configuration) : Except (List String) Router :=
  match c.destinations with
  | .error e => .error (ConfigurationError.badDestination e).messages
  | .ok [] => .error ["No destinations configured; pass --destination or set [router] destinations"]
  | .ok destinations => .ok { source := c.queues.results, destinations }

/-- The reason for which queues refuse a push. -/
def refusal : List String := ["Queue backend closed"]

/-- Reads jobs and pushes them. -/
def enqueue (m : Machine) (c : Configuration) (files : List String) :
    Except (List String) (Except (List String) Unit × Simulation.World) := do
  let tests ← (Enqueue.readJobs .bundled m.files files).mapError (Enqueue.EnqueueError.messages refusal)
  connect m c
  let (refused, queues) :=
    m.queues.complete Simulation.maxTurns (Enqueue.pushJobs c.queues.jobs tests)
  return match refused with
    | some (some t) => (.error ((Enqueue.EnqueueError.refused t.sanitize).messages refusal), queues)
    | _ => (.ok (), queues)

/-- Runs a consumer until it is told to stop. -/
def serve (m : Machine) (consumer : Consumer) : Simulation.World :=
  let surroundings : Surroundings := ⟨m.network, m.files, m.environment⟩
  Simulation.runFor { m.queues with prober := .steady surroundings.failure? } [consumer] m.stopAfter

/-- The end after an error. -/
def failed (m : Machine) (messages : List String) : Ending :=
  { exit := 1, stderr := errorText messages, files := m.files, queues := m.queues }

/-- Does what the program is told. -/
def carryOut (m : Machine) (c : Configuration) (t : CommandLine.Task) : Ending :=
  let outcome : Except (List String) Ending := do
    match t with
    | .worker _ _ =>
      connect m c
      return { files := m.files, queues := serve m (workerOf c).consumer }
    | .router _ _ =>
      let router ← routerOf c
      connect m c
      return { files := m.files, queues := serve m router.consumer }
    | .enqueue _ files =>
      let (outcome, queues) ← enqueue m c files
      return match outcome with
        | .ok _ => { files := m.files, queues }
        | .error messages => { failed m messages with queues }
    | .examples kind => return { stdout := ← examples kind, files := m.files, queues := m.queues }
  match outcome with
  | .ok ending => ending
  | .error messages => failed m messages

/-- The end of a run whose words are not carried out. -/
def usageEnding (m : Machine) (e : CommandLine.UsageError) : Ending :=
  let ending : Ending := { files := m.files, queues := m.queues }
  match e with
  | .version command => { ending with stdout := versionText command }
  | .help => { ending with stdout := usageText }
  | _ => { ending with exit := 2, stderr := usageText }

/-- Runs the program with the words after its name. -/
def run (m : Machine) (words : List String) : Ending :=
  match CommandLine.ofWords m.environment words with
  | .error e => usageEnding m e
  | .ok cl =>
    match configure m cl with
    | .error e => failed m e.messages
    | .ok (c, files) => carryOut { m with files } (configured cl c) cl.task

end Program

end Lookout
