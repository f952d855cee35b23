import Lookout.Url.Parser

/-!
# Networks

What a network answers to those who dial or send a request. A probe judges these answers.
-/

namespace Lookout
set_option autoImplicit false

/-- Whom a connection is made to. -/
inductive Peer where
  | address (a : Address)
  /-- A name, which has to be looked up before. -/
  | name (host : String)
deriving DecidableEq

/-- Whom a text stands for: it is an address if it can be read as one. -/
def Peer.ofText (target : String) : Peer :=
  match Address.ofText? target with
  | some a => .address a
  | none => .name target

/-- What comes of reaching out to a peer. -/
inductive Reply (α : Type) where
  | answered (a : α)
  /-- There is no answer, and this is why. -/
  | failed (reason : String)
  | timedOut

/-- A request to an HTTP server. -/
structure HttpRequest where
  url : Url
  /-- The address to connect to in place of the host's own. -/
  via : Option Address := none
  /-- The bearer token that the request carries. -/
  token : Option String := none
  /-- The certificate authority that is trusted beside the usual ones. -/
  authority : Option Payload := none
  /-- Whether any certificate will do. -/
  insecure : Bool := false

namespace HttpRequest

/-- Characters that a header may hold. -/
def isHeaderChar (c : Char) : Bool :=
  c == '\t' || (' ' ≤ c && c.toNat != 0x7F)

/-- Characters of a host that a request line may hold. -/
def isHostChar (c : Char) : Bool :=
  c.isAlphanum || "!$&'()*+,-.;=_~[]:".toList.contains c

/-- The most bytes that the URL of a request may have. -/
def maxUrl : Nat := 65534

/-- Whether a URL can be sent in a request. -/
def isSendable (url : Url) : Bool :=
  ["http".toList, "https".toList].contains url.scheme
    && (url.host?.map Url.Host.chars).any (·.all isHostChar)
    && url.withoutUserinfo.chars.length ≤ maxUrl

/-- Why a request cannot be made at all. -/
def refusal? (r : HttpRequest) : Option String :=
  if r.url.host?.isNone || !(r.token.getD "").toList.all isHeaderChar then some "builder error"
  else if isSendable r.url then none
  else some ("builder error for url (" ++ r.url.withoutUserinfo.text ++ ")")

end HttpRequest

/-- An answer of an HTTP server. -/
structure HttpResponse where
  status : Nat
  /-- The words that stand for the status. -/
  reason : String := ""
  /-- The body; none if it broke off. -/
  body? : Option Payload := some []

/-- How a network answers. -/
structure Network where
  /-- Connects to a port of a peer. The answer is what comes of waiting for what the peer sends first. -/
  dial : Peer → (port : Nat) → Reply (Reply Payload)
  /-- Sends a request. -/
  send : HttpRequest → Reply HttpResponse

namespace Network

/-- The reason that the system gives where no route leads to a peer. -/
def noRoute : String := "Network is unreachable (os error 101)"

/-- How a request that got no answer is reported. The user and password in its URL are left out. -/
def requestFailure (url : Url) : String :=
  "error sending request for url (" ++ url.withoutUserinfo.text ++ ")"

/-- How a body is reported that broke off, or that is not what was asked for. -/
def bodyFailure : String :=
  "error decoding response body"

/-- The answer to a request, or why there is none. -/
def request (network : Network) (r : HttpRequest) : Except String HttpResponse :=
  match r.refusal? with
  | some reason => .error reason
  | none =>
    match network.send r with
    | .answered response => .ok response
    | .failed reason => .error reason
    | .timedOut => .error (requestFailure r.url)

/-- The network of a machine that is connected to nothing. -/
def unreachable : Network where
  dial _ _ := .failed noRoute
  send request := .failed (requestFailure request.url)

end Network

end Lookout
