import Lookout.CommandLine.Grammar
import Lookout.Configuration

/-!
# The command line

The program is told by its words where its configuration is, what to do, and what to do otherwise than
the configuration says. Some options may also be set by the environment, which words go before.
-/

namespace Lookout
set_option autoImplicit false

namespace CommandLine

/-- What is said about the queues. -/
structure ServerChoices where
  host : Option String := none
  db : Option Int64 := none
  password : Option String := none
  jobs : Option String := none
  results : Option String := none
deriving DecidableEq

/-- What is said about a worker. -/
structure WorkChoices where
  noIpv4 : Bool := false
  noIpv6 : Bool := false
  noRetry : Bool := false
  retryCount : Option UInt32 := none
  retryDelay : Option UInt64 := none
  timeout : Option UInt64 := none
deriving DecidableEq

/-- What to do. -/
inductive Task where
  /-- Run jobs and publish their results. -/
  | worker (server : ServerChoices) (work : WorkChoices)
  /-- Copy results to destinations. -/
  | router (server : ServerChoices) (destinations : List String)
  /-- Push the jobs in files. -/
  | enqueue (server : ServerChoices) (files : List String)
  /-- Show how probes are used. -/
  | examples (kind : Option String)
deriving DecidableEq

/-- A configuration with what is said about the queues. -/
def ServerChoices.apply (s : ServerChoices) (c : Configuration) : Configuration :=
  { c with
    redis := {
      host := s.host.getD c.redis.host,
      db := s.db.getD c.redis.db,
      password := s.password.getD c.redis.password },
    queues := { jobs := s.jobs.getD c.queues.jobs, results := s.results.getD c.queues.results } }

/-- A configuration with what is said about a worker. -/
def WorkChoices.apply (w : WorkChoices) (c : Configuration) : Configuration :=
  { c with
    worker := { c.worker with
      ipv4 := c.worker.ipv4 && !w.noIpv4,
      ipv6 := c.worker.ipv6 && !w.noIpv6,
      retry := c.worker.retry && !w.noRetry,
      retryCount := w.retryCount.getD c.worker.retryCount,
      retryDelay := w.retryDelay.getD c.worker.retryDelay,
      timeout := w.timeout.getD c.worker.timeout } }

/-- A configuration with what the task says otherwise. -/
def Task.apply (t : Task) (c : Configuration) : Configuration :=
  match t with
  | .worker server work => work.apply (server.apply c)
  | .router server destinations =>
    let c := server.apply c
    if destinations.isEmpty then c else { c with router := ⟨destinations⟩ }
  | .enqueue server _ => server.apply c
  | .examples _ => c

def helpOption : Argument := { name := "help", long := some "help", short := some 'h', action := .help }

def versionOption : Argument :=
  { name := "version", long := some "version", short := some 'V', action := .version }

/-- Options of every command. -/
def globalOptions : List Argument := [
  { name := "config", long := some "config", short := some 'c', action := .value .path,
    fromVariable := some "VIGIL_CONFIG" },
  { name := "verbose", long := some "verbose", short := some 'v', action := .flag },
  helpOption,
  versionOption]

/-- An option that is known by its name alone. -/
def longOption (name : String) (action : Action) : Argument :=
  { name, long := some name, action }

/-- Options about the queues. -/
def serverOptions : List Argument := [
  longOption "redis-host" (.value .text),
  longOption "redis-db" (.value .int64),
  { longOption "redis-password" (.value .text) with fromVariable := some "VIGIL_REDIS_PASSWORD" },
  longOption "jobs-queue" (.value .text),
  longOption "results-queue" (.value .text)]

def workerCommand : Command where
  options := serverOptions ++ [
    longOption "no-ipv4" .flag,
    longOption "no-ipv6" .flag,
    longOption "no-retry" .flag,
    longOption "retry-count" (.value .word32),
    longOption "retry-delay" (.value .word64),
    longOption "timeout" (.value .word64)] ++ globalOptions

def routerCommand : Command where
  options := serverOptions ++
    [{ longOption "destination" (.values .text) with short := some 'd' }] ++ globalOptions

def enqueueCommand : Command where
  options := serverOptions ++ globalOptions
  positional := some { name := "files", action := .values .path, required := true }

def examplesCommand : Command where
  options := globalOptions
  positional := some { name := "kind", action := .value .text }

/-- The commands by their names. -/
def commands : List (String × Command) :=
  [("worker", workerCommand), ("router", routerCommand), ("enqueue", enqueueCommand),
    ("examples", examplesCommand)]

/-- The subcommand that shows help. -/
def helpName : String := "help"

def mainCommand : Command where
  options := globalOptions
  subcommands := commands.map Prod.fst ++ [helpName]

/-- What to answer to words after the subcommand that shows help: they must name a command. -/
def helpOutcome (words : List String) : UsageError :=
  match words with
  | [] => .help
  | [name] => if mainCommand.subcommands.contains name then .help else .invalidSubcommand
  | _ => .invalidSubcommand

def int64? (s : String) : Option Int64 :=
  (Text.readInt Text.maxInt64 s.toList).toOption.map Int64.ofInt

def word32? (s : String) : Option UInt32 :=
  (Text.readInt Text.maxInt64 s.toList).toOption.map fun n => n.toNat.toUInt32

def word64? (s : String) : Option UInt64 :=
  (Text.readNat Text.maxWord64 s.toList).toOption.map Nat.toUInt64

def serverChoices (fs : Findings) : ServerChoices where
  host := fs.value? "redis-host"
  db := (fs.value? "redis-db").bind int64?
  password := fs.value? "redis-password"
  jobs := fs.value? "jobs-queue"
  results := fs.value? "results-queue"

def workChoices (fs : Findings) : WorkChoices where
  noIpv4 := fs.has "no-ipv4"
  noIpv6 := fs.has "no-ipv6"
  noRetry := fs.has "no-retry"
  retryCount := (fs.value? "retry-count").bind word32?
  retryDelay := (fs.value? "retry-delay").bind word64?
  timeout := (fs.value? "timeout").bind word64?

/-- The task that a command with these arguments is. -/
def taskOf (name : String) (fs : Findings) : Task :=
  if name = "worker" then .worker (serverChoices fs) (workChoices fs)
  else if name = "router" then .router (serverChoices fs) (fs.values "destination")
  else if name = "enqueue" then .enqueue (serverChoices fs) (fs.values "files")
  else .examples (fs.value? "kind")

/-- The value of an option of every command. What was said later counts, but words go before the
environment. -/
def globalValue? (before after : Findings) (name : String) : Option String :=
  match before.get? name, after.get? name with
  | some b, some a => if b.byWord && !a.byWord then b.values.head? else a.values.head?
  | some b, none => b.values.head?
  | none, a => a.bind fun f => f.values.head?

end CommandLine

open Lookout.CommandLine in
/-- What the program is told. -/
structure CommandLine where
  config : Option String := none
  verbose : Bool := false
  task : Task
deriving DecidableEq

namespace CommandLine

/-- An error in the words of a command. -/
def errorOf (command : String) : UsageError → UsageError
  | .version _ => .version (some command)
  | e => e

/-- Reads the words after the name of the program. -/
def ofWords (env : List (String × String)) (words : List String) : Except UsageError CommandLine := do
  match ← readWords mainCommand {} words with
  | (p, none) =>
    let fs ← finish mainCommand env p
    .error (if fs.isEmpty then .helpInstead else .missingSubcommand)
  | (p, some (name, rest)) =>
    match commands.lookup name with
    | none => .error (helpOutcome rest)
    | some c =>
      let inner ← (readCommand c env rest).mapError (errorOf name)
      let outer ← finish mainCommand env p
      return {
        config := globalValue? outer inner "config",
        verbose := outer.has "verbose" || inner.has "verbose",
        task := taskOf name inner }

end CommandLine

end Lookout
