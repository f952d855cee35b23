import Lookout.Configuration
import Lookout.Files.Tree
import Lookout.Toml.Reader
import Lookout.Toml.Writer

/-!
# Configuration files

A configuration is kept in a file in TOML, one table for each section. What the file does not set keeps
its default, and what is no setting does not count. Every configuration whose numbers TOML can carry can
be written, and reads back as it was.
-/

namespace Lookout
set_option autoImplicit false

/-- Why a configuration cannot be had or kept. -/
inductive ConfigurationError where
  | unreadable (path : String) (cause : Files.FileError)
  | unwritable (path : String) (cause : Files.FileError)
  | malformed (path : String)
  | unserializable
  | noDirectory
  | badDestination (cause : DestinationError)
deriving DecidableEq

namespace ConfigurationError

/-- The messages of an error, outermost first. -/
def messages : ConfigurationError → List String
  | unreadable path cause => ["Failed to read " ++ path ++ ": " ++ cause.message, cause.message]
  | unwritable path cause => ["Failed to write " ++ path ++ ": " ++ cause.message, cause.message]
  | malformed path => ["Failed to parse " ++ path ++ ": not a configuration", "not a configuration"]
  | unserializable =>
    ["Failed to serialize configuration: number out of range", "number out of range"]
  | noDirectory => ["Neither XDG_CONFIG_HOME nor a home directory is available"]
  | badDestination cause => ["Invalid router destination: " ++ cause.message, cause.message]

def message (e : ConfigurationError) : String :=
  e.messages.headD ""

end ConfigurationError

namespace Configuration
open Toml

/-- The fields of a section. An array gives them in the order of `names`, and a time gives none. -/
def fieldsOf (names : List String) : Toml.Value → Option (String → Option Toml.Value)
  | .table _ es => some fun name => es.lookup name
  | .array items => some fun name => (names.zip items).lookup name
  | .tables elements => some fun name => (names.zip (elements.map (.table .explicit))).lookup name
  | .time => some fun _ => none
  | _ => none

def stringOf : Toml.Value → Option String
  | .string s => some s
  | _ => none

def boolOf : Toml.Value → Option Bool
  | .boolean b => some b
  | _ => none

/-- A whole number from 0 to `limit`. -/
def natOf (limit : Nat) : Toml.Value → Option Nat
  | .integer n => if 0 ≤ n && n ≤ limit then some n.toNat else none
  | _ => none

def int64Of : Toml.Value → Option Int64
  | .integer n => some (Int64.ofInt n)
  | _ => none

def word32Of (v : Toml.Value) : Option UInt32 :=
  (natOf Text.maxWord32 v).map Nat.toUInt32

def word64Of (v : Toml.Value) : Option UInt64 :=
  (natOf Text.maxWord64 v).map Nat.toUInt64

def stringsOf : Toml.Value → Option (List String)
  | .array items => items.mapM stringOf
  | _ => none

/-- A field, or its default if it is missing. -/
def field {α : Type} (fallback : α) (read : Toml.Value → Option α) : Option Toml.Value → Option α
  | none => some fallback
  | some v => read v

def serverOf (v : Toml.Value) : Option Server := do
  let get ← fieldsOf ["host", "db", "password"] v
  let initial : Server := {}
  return {
    host := ← field initial.host stringOf (get "host"),
    db := ← field initial.db int64Of (get "db"),
    password := ← field initial.password stringOf (get "password") }

def queuesOf (v : Toml.Value) : Option Queues := do
  let get ← fieldsOf ["jobs", "results"] v
  let initial : Queues := {}
  return {
    jobs := ← field initial.jobs stringOf (get "jobs"),
    results := ← field initial.results stringOf (get "results") }

def workOf (v : Toml.Value) : Option Work := do
  let get ← fieldsOf ["ipv4", "ipv6", "retry", "retry_count", "retry_delay_seconds", "timeout_seconds",
    "verbose", "poll_seconds"] v
  let initial : Work := {}
  return {
    ipv4 := ← field initial.ipv4 boolOf (get "ipv4"),
    ipv6 := ← field initial.ipv6 boolOf (get "ipv6"),
    retry := ← field initial.retry boolOf (get "retry"),
    retryCount := ← field initial.retryCount word32Of (get "retry_count"),
    retryDelay := ← field initial.retryDelay word64Of (get "retry_delay_seconds"),
    timeout := ← field initial.timeout word64Of (get "timeout_seconds"),
    verbose := ← field initial.verbose boolOf (get "verbose"),
    poll := ← field initial.poll word64Of (get "poll_seconds") }

def routingOf (v : Toml.Value) : Option Routing := do
  let get ← fieldsOf ["destinations"] v
  return { destinations := ← field [] stringsOf (get "destinations") }

/-- The configuration that a TOML text is. -/
def ofToml? (text : String) : Option Configuration := do
  let es ← document? text
  return {
    redis := ← field {} serverOf (es.lookup "redis"),
    queues := ← field {} queuesOf (es.lookup "queues"),
    worker := ← field {} workOf (es.lookup "worker"),
    router := ← field {} routingOf (es.lookup "router") }

/-- A configuration in TOML; none if TOML cannot carry one of its numbers. -/
def toToml? (c : Configuration) : Option String := do
  let delay ← writeNat? c.worker.retryDelay.toNat
  let timeout ← writeNat? c.worker.timeout.toNat
  let poll ← writeNat? c.worker.poll.toNat
  return String.intercalate "\n" [
    writeTable "redis" [
      ("host", writeString c.redis.host),
      ("db", toString c.redis.db.toInt),
      ("password", writeString c.redis.password)],
    writeTable "queues" [
      ("jobs", writeString c.queues.jobs),
      ("results", writeString c.queues.results)],
    writeTable "worker" [
      ("ipv4", writeBool c.worker.ipv4),
      ("ipv6", writeBool c.worker.ipv6),
      ("retry", writeBool c.worker.retry),
      ("retry_count", toString c.worker.retryCount.toNat),
      ("retry_delay_seconds", delay),
      ("timeout_seconds", timeout),
      ("verbose", writeBool c.worker.verbose),
      ("poll_seconds", poll)],
    writeTable "router" [("destinations", writeStrings c.router.destinations)]]

/-- Where the configuration of a user is kept. -/
def defaultPath (env : String → Option String) : Except ConfigurationError String :=
  match env "XDG_CONFIG_HOME", env "HOME" with
  | some directory, _ => .ok (Files.join directory "vigil/config.toml")
  | none, some home => .ok (Files.join (Files.join home ".config") "vigil/config.toml")
  | none, none => .error .noDirectory

/-- Where the configuration is kept: at `path`, which is given the extension of TOML files, or where a
user has it. -/
def locate (env : String → Option String) : (path : Option String) → Except ConfigurationError String
  | some path => .ok (Files.withExtension "toml" path)
  | none => defaultPath env

/-- The configuration in a file; none if there is no file. -/
def load (tree : Files.Tree) (path : String) : Except ConfigurationError (Option Configuration) :=
  if tree.pathExists path then
    match tree.readText path with
    | .error cause => .error (.unreadable path cause)
    | .ok text =>
      match ofToml? text with
      | some c => .ok (some c)
      | none => .error (.malformed path)
  else .ok none

/-- Makes the directory of a file and writes the file. -/
def writeFile (tree : Files.Tree) (path text : String) : Except Files.FileError Unit × Files.Tree :=
  match Files.parent? path with
  | none => tree.write path (Payload.ofText text)
  | some directory =>
    match tree.makeDirectories directory with
    | (.error cause, tree) => (.error cause, tree)
    | (.ok (), tree) => tree.write path (Payload.ofText text)

/-- Keeps a configuration in a file. -/
def save (c : Configuration) (tree : Files.Tree) (path : String) :
    Except ConfigurationError Unit × Files.Tree :=
  match c.toToml? with
  | none => (.error .unserializable, tree)
  | some text =>
    let (done, tree) := writeFile tree path text
    (done.mapError (.unwritable path), tree)

end Configuration

end Lookout
