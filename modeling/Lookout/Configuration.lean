import Lookout.Destination
import Lookout.Redis.Connection
import Lookout.Worker

/-!
# Configurations

Everything that a user can set, by section, with its defaults: where the queues are and what they are
called, how workers work, and where routers copy messages to.
-/

namespace Lookout
set_option autoImplicit false

namespace Configuration

/-- The section on the server of the queues. An empty password is none. -/
structure Server where
  host : String := "localhost:6379"
  db : Int64 := 0
  password : String := ""
deriving DecidableEq, Inhabited

/-- The section on the names of the queues. -/
structure Queues where
  jobs : String := "vigil.jobs"
  results : String := "vigil.results"
deriving DecidableEq, Inhabited

/-- The section on workers. Durations are in seconds. -/
structure Work where
  ipv4 : Bool := true
  ipv6 : Bool := true
  retry : Bool := true
  retryCount : UInt32 := 5
  retryDelay : UInt64 := 5
  timeout : UInt64 := 10
  verbose : Bool := false
  /-- How long one wait for a job lasts. -/
  poll : UInt64 := 1
deriving DecidableEq, Inhabited

/-- The section on routers. -/
structure Routing where
  /-- Destinations as they are written. -/
  destinations : List String := []
deriving DecidableEq, Inhabited

end Configuration

open Lookout.Configuration in
/-- Everything that a user can set. -/
structure Configuration where
  redis : Server := {}
  queues : Queues := {}
  worker : Work := {}
  router : Routing := {}
deriving DecidableEq, Inhabited

namespace Configuration

/-- How to connect to the server of the queues. -/
def redisOptions (c : Configuration) : Redis.Options where
  host := c.redis.host
  db := c.redis.db.toInt
  password := if c.redis.password = "" then none else some c.redis.password

/-- The address families that are probed. -/
def families (c : Configuration) : Families :=
  ⟨c.worker.ipv4, c.worker.ipv6⟩

/-- The milliseconds in some seconds. -/
def milliseconds (seconds : UInt64) : Nat :=
  seconds.toNat * 1000

/-- What a worker is told. It waits at least a second for a job. -/
def workerSettings (c : Configuration) : WorkerSettings where
  jobsQueue := c.queues.jobs
  resultsQueue := c.queues.results
  retry := ⟨c.worker.retry, c.worker.retryCount, milliseconds c.worker.retryDelay⟩
  execution := ⟨c.worker.verbose, milliseconds c.worker.timeout⟩
  poll := milliseconds (max c.worker.poll 1)

/-- The destinations of a router, unless one of them is none. -/
def destinations (c : Configuration) : Except DestinationError (List Destination) :=
  c.router.destinations.mapM Destination.ofText

/-- A section as it is shown. -/
def sectionText (title : String) (fields : List (String × String)) : String :=
  "  " ++ title ++ "\n" ++ String.join (fields.map fun f => "    " ++ f.1 ++ ": " ++ f.2 ++ "\n")

/-- A configuration as it is shown. The password is not. -/
def text (c : Configuration) : String :=
  "Current Configuration:\n"
    ++ sectionText "Redis" [
      ("Host", c.redis.host),
      ("Database", toString c.redis.db.toInt),
      ("Password", if c.redis.password = "" then "(none)" else "********")]
    ++ sectionText "Queues" [("Jobs", c.queues.jobs), ("Results", c.queues.results)]
    ++ sectionText "Worker" [
      ("IPv4", toString c.worker.ipv4),
      ("IPv6", toString c.worker.ipv6),
      ("Retry", toString c.worker.retry),
      ("Retry Count", toString c.worker.retryCount.toNat),
      ("Retry Delay (s)", toString c.worker.retryDelay.toNat),
      ("Timeout (s)", toString c.worker.timeout.toNat),
      ("Poll (s)", toString c.worker.poll.toNat),
      ("Verbose", toString c.worker.verbose)]
    ++ sectionText "Router" [("Destinations", String.intercalate " " c.router.destinations)]

end Configuration

end Lookout
