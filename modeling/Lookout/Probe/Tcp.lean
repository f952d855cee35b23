import Lookout.Network
import Lookout.Probe.Registry
import Lookout.Retry
import Lookout.Test

/-!
# The TCP and SSH probes

A TCP test passes if the port accepts a connection, an SSH test if the server there begins with an SSH
banner.
-/

namespace Lookout.Probe
set_option autoImplicit false

def tcp : Probe where
  name := "tcp"
  arguments := [("port", .digits)]
  usage := lines [
    "",
    "TCP Tester",
    "----------",
    " The TCP tester connects to the given port and succeeds if the",
    " connection is accepted within the timeout.",
    "",
    " This test is invoked via input like so:",
    "",
    "    host.example.com must run tcp with port 25",
    ""]

def ssh : Probe where
  name := "ssh"
  arguments := [("port", .digits)]
  usage := lines [
    "",
    "SSH Tester",
    "----------",
    " The SSH tester connects to a remote host and ensures that a",
    " response is received that looks like an SSH-server banner.",
    "",
    " This test is invoked via input like so:",
    "",
    "    host.example.com must run ssh [with port 2222]",
    ""]

/-- A duration in milliseconds as it is shown: seconds, milliseconds below one, and none at all in the
least unit. -/
def durationText (ms : Nat) : String :=
  if ms = 0 then "0ns"
  else if ms < 1000 then toString ms ++ "ms"
  else
    let fraction := ((toString (1000 + ms % 1000)).toList.drop 1).reverse.dropWhile (· == '0')
    toString (ms / 1000) ++ (if fraction.isEmpty then "" else "." ++ String.ofList fraction.reverse) ++ "s"

/-- Connects to a port of the target, which is looked up unless it is an address; the result is what comes of
waiting for what the peer sends first. -/
def connect (network : Network) (target : String) (port timeout : Nat) : Except String (Reply Payload) :=
  let peer := "Connection to " ++ target ++ " port " ++ toString port
  match network.dial (.ofText target) port with
  | .answered first => .ok first
  | .failed reason => .error (peer ++ " failed: " ++ reason)
  | .timedOut => .error (peer ++ " timed out after " ++ durationText timeout)

/-- Runs a TCP test. A missing port counts as port 0, and that cannot be connected to. -/
def runTcp (network : Network) (t : Test) (target : String) (o : ExecutionOptions) : Except String Unit := do
  let port ← numericArgument t "port" Text.maxWord16 0
  if port = 0 then .error "A port must be specified for tcp tests"
  let _ ← connect network target port o.timeout

/-- How a server presents itself as an SSH server. -/
def sshBanner : String := "SSH-"

/-- The most bytes of a banner that are read. -/
def maxBanner : Nat := 255

/-- Runs an SSH test. -/
def runSsh (network : Network) (t : Test) (target : String) (o : ExecutionOptions) : Except String Unit := do
  let port ← numericArgument t "port" Text.maxWord16 22
  match ← connect network target port o.timeout with
  | .answered first =>
    if (Payload.ofText sshBanner).isPrefixOf (first.take maxBanner) then return ()
    else .error ("Server on " ++ target ++ " port " ++ toString port ++ " did not send an SSH banner")
  | .failed reason => .error reason
  | .timedOut => .error ("Timed out waiting for SSH banner from " ++ target)

end Lookout.Probe
