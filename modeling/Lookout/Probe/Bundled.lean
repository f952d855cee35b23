import Lookout.Activity
import Lookout.Probe.Endpoints
import Lookout.Probe.Http
import Lookout.Probe.Tcp

/-!
# The bundled probes

The registry of the probes that come with the program, and how a call of one of them is run.
-/

namespace Lookout
set_option autoImplicit false

/-- The probes that come with the program. -/
def Registry.bundled : Registry :=
  ⟨[Probe.http, Probe.https, Probe.endpoints, Probe.ssh, Probe.tcp], by decide⟩

/-- What bundled probes reach out to. -/
structure Surroundings where
  network : Network
  files : Files.Tree
  environment : Kube.Environment

/-- Runs a call of a bundled probe. -/
def Surroundings.run (s : Surroundings) (c : Call) : Except String Unit :=
  if c.probe = Probe.ssh.name then Probe.runSsh s.network c.test c.target c.options
  else if c.probe = Probe.tcp.name then Probe.runTcp s.network c.test c.target c.options
  else if c.probe = Probe.endpoints.name then
    Probe.runEndpoints s.network s.files s.environment c.test c.target
  else Probe.runHttp s.network c.test c.target

/-- Why a call of a bundled probe failed, if it did. -/
def Surroundings.failure? (s : Surroundings) (c : Call) : Option String :=
  match s.run c with
  | .ok _ => none
  | .error reason => some reason

end Lookout
