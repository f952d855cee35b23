import Lookout.Network
import Lookout.Probe.Registry
import Lookout.Resolver
import Lookout.Test

/-!
# The HTTP probe

An HTTP test fetches a URL from the address under test and judges the status of the answer, and its
body if some text is expected there.
-/

namespace Lookout.Probe
set_option autoImplicit false

def httpUsage : String :=
  lines [
    "",
    "HTTP Tester",
    "-----------",
    " The HTTP tester fetches a URL and checks the response status,",
    " which must be 200 unless another status is given. Redirects are",
    " not followed. Optionally the body must contain some text.",
    "",
    " This test is invoked via input like so:",
    "",
    "    https://example.com/ must run https",
    "    http://example.com/ must run http with status 301",
    "    https://example.com/ must run https with content 'Example Domain'",
    ""]

/-- The HTTP probe under one of its two names. -/
def httpNamed (name : String) : Probe where
  name := name
  arguments := [("status", .threeDigits), ("content", .anything)]
  usage := httpUsage

def http : Probe := httpNamed "http"
def https : Probe := httpNamed "https"

/-- The scheme that a target without one is given. -/
def impliedScheme (kind : String) : String :=
  if kind = "https" then "https" else "http"

/-- The URL that a test asks for, in writing. -/
def requestText (t : Test) : String :=
  if isUri t.target then t.target else impliedScheme t.kind ++ "://" ++ t.target ++ "/"

/-- The URL that a test asks for. -/
def requestUrl (t : Test) : Except String Url :=
  match Url.ofText (requestText t) with
  | .error e => .error ("Invalid URL " ++ requestText t ++ ": " ++ e.message)
  | .ok url =>
    let scheme := String.ofList url.scheme
    if scheme = "http" || scheme = "https" then .ok url else .error ("Unsupported URL scheme: " ++ scheme)

/-- The address that a request is sent to, for a URL whose host is a name. -/
def pinnedAddress (url : Url) (target : String) : Option Address :=
  match url.host? with
  | some (.name _) => Address.ofText? target
  | _ => none

/-- Whether the text of a body holds `content`. -/
def bodyHolds (body : Payload) (content : String) : Bool :=
  Text.occursIn (Payload.ofText content) body

/-- Runs an HTTP test. -/
def runHttp (network : Network) (t : Test) (target : String) : Except String Unit := do
  let url ← requestUrl t
  let expected ← numericArgument t "status" Text.maxWord16 200
  match network.request { url, via := pinnedAddress url target } with
  | .error reason => .error ("HTTP request to " ++ url.text ++ " via " ++ target ++ " failed: " ++ reason)
  | .ok response =>
    if response.status != expected then
      .error ("Status code was " ++ toString response.status ++ " not " ++ toString expected)
    else
      match t.argument? "content" with
      | some content =>
        match response.body? with
        | none => .error Network.bodyFailure
        | some body =>
          if bodyHolds body content then return () else .error ("Body didn't contain '" ++ content ++ "'")
      | none => return ()

end Lookout.Probe
