import Lookout.Network
import Lookout.Text.Numeral

/-!
# Connecting to Redis

Where the Redis server is, as a URL. A client takes from it what it needs to log in, and then dials the server.
-/

namespace Lookout.Redis
set_option autoImplicit false

/-- Where the server is and how to log in. An empty password is none. -/
structure Options where
  /-- Host and port. -/
  host : String := "localhost:6379"
  db : Int := 0
  password : Option String := none
deriving DecidableEq, Inhabited

/-- Why there is no URL for the options. -/
inductive OptionsError where
  | invalidHost (host : String) (reason : Url.UrlError)
  | cannotSetPassword (host : String)
deriving DecidableEq

def OptionsError.message : OptionsError → String
  | invalidHost host reason => "invalid redis host " ++ host ++ ": " ++ reason.message
  | cannotSetPassword host => "cannot set password for " ++ host

/-- The URL of the server: its path is the number of the database. -/
def Options.url (o : Options) : Except OptionsError Url :=
  match Url.ofText ("redis://" ++ o.host ++ "/" ++ toString o.db) with
  | .error e => .error (.invalidHost o.host e)
  | .ok url =>
    match o.password.filter (· != "") with
    | none => .ok url
    | some password =>
      match url.withPassword? password with
      | some url => .ok url
      | none => .error (.cannotSetPassword o.host)

/-- Why there is no connection. -/
inductive ConnectionError where
  | options (cause : OptionsError)
  | failed (reason : String)
deriving DecidableEq

/-- The messages of an error, outermost first. -/
def ConnectionError.messages : ConnectionError → List String
  | options cause => ["Invalid queue connection parameters: " ++ cause.message]
  | failed reason => ["Redis error: " ++ reason, reason]

/-- A demand on the URL of a server that it does not meet. -/
def unmet (what : String) : ConnectionError :=
  .failed (what ++ "- InvalidClientConfig")

/-- The number of the database: the path of a URL without the slashes around it. -/
def databaseOf (path : List Char) : Except ConnectionError Int :=
  let digits := (((path.dropWhile (· == '/')).reverse).dropWhile (· == '/')).reverse
  if digits.isEmpty then .ok 0
  else (Text.readInt Text.maxInt64 digits).mapError fun _ => unmet "Invalid database number"

/-- A user or password: what the URL writes, decoded. -/
def credentialOf (what : String) (written : List Char) : Except ConnectionError (Option String) :=
  if written.isEmpty then .ok none
  else
    match Payload.text? (Url.percentDecode written) with
    | some s => .ok (some s)
    | none => .error (unmet (what ++ " is not valid UTF-8 string"))

/-- What a client logs in with. -/
structure Login where
  host : String
  port : Nat
  db : Int
  username : Option String
  password : Option String
deriving DecidableEq

/-- The port of a server whose URL names none. -/
def defaultPort : Nat := 6379

/-- What a client takes from the URL of a server. -/
def loginOf (url : Url) : Except ConnectionError Login := do
  let host ← match url.host? with
    | some host => .ok host
    | none => .error (unmet "Missing hostname")
  let db ← databaseOf url.path
  let username ← credentialOf "Username" ((url.authority.map Authority.username).getD [])
  let password ← credentialOf "Password" ((url.authority.map Authority.password).getD [])
  return {
    host := host.text, port := (url.authority.bind Authority.port).getD defaultPort, db, username, password }

/-- Connects to a server. -/
def connect (network : Network) (o : Options) : Except ConnectionError Login := do
  let url ← o.url.mapError .options
  let login ← loginOf url
  match network.dial (.ofText login.host) login.port with
  | .answered _ => return login
  | .failed reason => .error (.failed reason)
  | .timedOut => .error (.failed "timed out")

end Lookout.Redis
