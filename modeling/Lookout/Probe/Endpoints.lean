import Lookout.Json.Value
import Lookout.Kube.Access
import Lookout.Kube.Certificate
import Lookout.Network
import Lookout.Probe.Registry
import Lookout.Test

/-!
# The endpoints probe

An endpoints test asks the API server of a Kubernetes cluster for the endpoints of a service and counts the
addresses that are ready. Its target is a namespace and a service, with a slash between them.
-/

namespace Lookout.Probe
set_option autoImplicit false
open Json Text

def endpoints : Probe where
  name := "k8s-svc"
  arguments := [("min-endpoints", .digits)]
  resolves := false
  usage := lines [
    "",
    "K8SSvc Tester",
    "-------------",
    " The Kubernetes service tester checks that a service has at least",
    " the given number of available endpoints (default 1).",
    "",
    " This test is invoked via input like so:",
    "",
    "    namespace-name/service-name must run k8s-svc",
    "",
    " The number of endpoints required can be raised:",
    "",
    "    default/web must run k8s-svc with min-endpoints 2",
    "",
    " When KUBE_CONFIG_PATH is set, the API server and credentials come",
    " from that kubeconfig's current context. Otherwise the pod's service",
    " account is used; KUBE_API_SERVER and KUBE_TOKEN override it when set.",
    ""]

/-- A service of a cluster. -/
structure Service where
  namespaceName : String
  name : String
deriving DecidableEq

/-- The service that a target names: two parts that are not empty, with the only slash between them. -/
def Service.ofTarget? (target : String) : Option Service :=
  match splitAt '/' target.toList with
  | [a, b] => if a.isEmpty || b.isEmpty then none else some ⟨String.ofList a, String.ofList b⟩
  | _ => none

/-- The URL of the endpoints of a service, in writing. -/
def endpointsUrl (apiServer : String) (s : Service) : String :=
  String.ofList (apiServer.toList.reverse.dropWhile (· == '/')).reverse
    ++ "/api/v1/namespaces/" ++ s.namespaceName ++ "/endpoints/" ++ s.name

/-- The one field `name` of an object, or of an array that gives it by its place. It may be missing, but
not be repeated. -/
def soleField? (name : String) : Raw → Option (Option Raw)
  | .object members => do
    let named ← members.mapM fun m => (Json.text? m.1).map (·, m.2)
    match named.filter (·.1 == name) with
    | [] => some none
    | [m] => some (some m.2)
    | _ => none
  | .array [] => some none
  | .array [item] => some (some item)
  | _ => none

/-- The items of an array of which each is read by `read`; none are there if the array is missing. -/
def itemsOf {α : Type} (read : Raw → Option α) : Option Raw → Option (List α)
  | none => some []
  | some (.array items) => items.mapM read
  | some _ => none

/-- How many arrays and objects stand around an address. -/
def addressDepth : Nat := 4

/-- The number of addresses of a subset that are ready. -/
def addressCount? (subset : Raw) : Option Nat := do
  let addresses ← soleField? "addresses" subset
  (itemsOf (Value.ofRaw? (maxDepth - addressDepth)) addresses).map List.length

/-- The number of addresses that are ready, in all subsets of an endpoints object. -/
def availableEndpoints? (body : Payload) : Option Nat := do
  let subsets ← soleField? "subsets" (← Raw.ofPayload? body)
  (itemsOf addressCount? subsets).map (List.foldr (· + ·) 0)

/-- Whether a status tells of success. -/
def isSuccess (status : Nat) : Bool :=
  200 ≤ status && status < 300

/-- Asks the API server how many endpoints of a service are available. -/
def countEndpoints (network : Network) (a : Kube.Access) (s : Service) : Except String Nat := do
  if !a.authority.all Kube.Certificate.isCertificate then .error "builder error"
  let failure (reason : String) := "Kubernetes API request failed: " ++ reason
  match Url.ofText (endpointsUrl a.apiServer s) with
  | .error _ => .error (failure "builder error")
  | .ok url =>
    match network.request { url, token := a.token, authority := a.authority, insecure := a.insecure } with
    | .error reason => .error (failure reason)
    | .ok response =>
      if isSuccess response.status then
        match response.body?.bind availableEndpoints? with
        | some n => return n
        | none => .error Network.bodyFailure
      else
        .error ("Kubernetes API returned " ++ toString response.status ++ " " ++ response.reason
          ++ " for service " ++ s.namespaceName ++ "/" ++ s.name)

/-- Runs an endpoints test. -/
def runEndpoints (network : Network) (tree : Files.Tree) (env : Kube.Environment) (t : Test)
    (target : String) : Except String Unit := do
  let some s := Service.ofTarget? target
    | .error ("not a valid namespace-name/service-name target provided: " ++ target)
  let least ← numericArgument t "min-endpoints" maxWord64 1
  let a ← (Kube.access tree env).mapError Kube.AccessError.message
  let available ← countEndpoints network a s
  if available < least then
    .error ("number of available endpoints (" ++ toString available ++ ") is lower than min defined ("
      ++ toString least ++ ")")

end Lookout.Probe
