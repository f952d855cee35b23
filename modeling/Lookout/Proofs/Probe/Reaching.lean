import Lookout.Probe.Bundled
import Lookout.Proofs.Resolver.Kept

/-!
# Whom probes reach out to

A probe reads the address that was found for its target from the text that the target is resolved to, so it looks no
name up itself. What comes of a call depends on what the network answers at that address, and on nothing else of the
network, unless the URL of a request has an address of its own for a host.
-/

namespace Lookout
set_option autoImplicit false
open Activity Probe

theorem Address.canonical_canonical (a : Address) : a.canonical.canonical = a.canonical := by
  cases a with
  | v4 octets => rfl
  | v6 groups =>
    cases embedded : Address.embedded? groups with
    | some octets => simp [Address.canonical, embedded]
    | none => simp [Address.canonical, embedded]

theorem Peer.ofText_text (a : Address) : Peer.ofText a.text = .address a := by
  rw [Peer.ofText, Address.ofText?_text]

/-- Whom a request is sent to: the address that is given with it, or else the host of its URL. -/
def HttpRequest.peer? (r : HttpRequest) : Option Peer :=
  match r.via, r.url.host? with
  | some a, _ => some (.address a)
  | none, some (.address a) => some (.address a)
  | none, some (.name host) => some (.name (String.ofList host))
  | none, none => none

/-- Two networks answer alike at certain addresses. Nothing is said of how they answer those who come with a name. -/
structure Network.AgreeAt (p : Address → Prop) (n n' : Network) : Prop where
  dial : ∀ a port, p a → n.dial (.address a) port = n'.dial (.address a) port
  send : ∀ (r : HttpRequest) (a : Address), p a → r.peer? = some (.address a) → n.send r = n'.send r

/-- The addresses that a call reaches out to if its target is `a`: `a` itself, and the host of the URL that it asks for,
if that is an address. -/
inductive Call.Reaches (c : Call) (a : Address) : Address → Prop where
  | target : Reaches c a a
  | host {url : Url} {b : Address} : c.probe ≠ ssh.name → c.probe ≠ tcp.name → requestUrl c.test = .ok url →
      url.host? = some (.address b) → Reaches c a b

namespace Network.AgreeAt

variable {p : Address → Prop} {n n' : Network} (agree : AgreeAt p n n')
include agree

/-- A request that needs no name to be looked up is answered alike. -/
theorem request_eq {r : HttpRequest} (known : ∀ peer, r.peer? = some peer → ∃ a, peer = .address a ∧ p a) :
    n.request r = n'.request r := by
  cases goes : r.peer? with
  | none =>
    -- without a host the request is refused, and nothing is sent
    have hostless : r.url.host? = none := by
      unfold HttpRequest.peer? at goes
      split at goes
      · cases goes
      · cases goes
      · cases goes
      · assumption
    simp [Network.request, HttpRequest.refusal?, hostless]
  | some peer =>
    obtain ⟨a, rfl, here⟩ := known peer goes
    rw [Network.request, Network.request, agree.send r a here goes]

theorem connect_eq {target : String} {a : Address} (read : Peer.ofText target = .address a) (here : p a)
    (port timeout : Nat) : connect n target port timeout = connect n' target port timeout := by
  rw [connect, connect, read, agree.dial a port here]

theorem runTcp_eq {target : String} {a : Address} (read : Peer.ofText target = .address a) (here : p a) (t : Test)
    (o : ExecutionOptions) : runTcp n t target o = runTcp n' t target o := by
  simp only [runTcp, agree.connect_eq read here]

theorem runSsh_eq {target : String} {a : Address} (read : Peer.ofText target = .address a) (here : p a) (t : Test)
    (o : ExecutionOptions) : runSsh n t target o = runSsh n' t target o := by
  simp only [runSsh, agree.connect_eq read here]

theorem runHttp_eq {t : Test} {target : String} {a : Address} (read : Address.ofText? target = some a) (here : p a)
    (hosts : ∀ url b, requestUrl t = .ok url → url.host? = some (.address b) → p b) :
    runHttp n t target = runHttp n' t target := by
  unfold runHttp
  cases asked : requestUrl t with
  | error e => rfl
  | ok url =>
    have same : n.request { url, via := pinnedAddress url target } =
        n'.request { url, via := pinnedAddress url target } := by
      apply agree.request_eq
      intro peer goes
      cases host : url.host? with
      | none => simp [HttpRequest.peer?, pinnedAddress, host] at goes
      | some h =>
        cases h with
        | name domain =>
          obtain rfl : Peer.address a = peer := by simpa [HttpRequest.peer?, pinnedAddress, host, read] using goes
          exact ⟨a, rfl, here⟩
        | address b =>
          obtain rfl : Peer.address b = peer := by simpa [HttpRequest.peer?, pinnedAddress, host] using goes
          exact ⟨b, rfl, hosts url b asked host⟩
    simp only [bind, Except.bind, same]

end Network.AgreeAt

/-- The probes that a resolved target is given to depend on the addresses that they reach out to. -/
theorem Surroundings.run_eq {s s' : Surroundings} {c : Call} {a : Address}
    (read : Address.ofText? c.target = some a) (resolves : c.probe ≠ endpoints.name)
    (agree : Network.AgreeAt (c.Reaches a) s.network s'.network) : s.run c = s'.run c := by
  have peer : Peer.ofText c.target = .address a := by rw [Peer.ofText, read]
  unfold Surroundings.run
  by_cases isSsh : c.probe = ssh.name
  · rw [if_pos isSsh, if_pos isSsh, agree.runSsh_eq peer .target]
  by_cases isTcp : c.probe = tcp.name
  · rw [if_neg isSsh, if_pos isTcp, if_neg isSsh, if_pos isTcp, agree.runTcp_eq peer .target]
  rw [if_neg isSsh, if_neg isTcp, if_neg resolves, if_neg isSsh, if_neg isTcp, if_neg resolves]
  exact agree.runHttp_eq read .target fun url b asked host => .host isSsh isTcp asked host

namespace Worker

variable {w : Worker} {t : Test} {es : List Event} {targets : List String}

/-- What is handed out as a target is the text of a canonical address. -/
theorem exists_canonical_of_resolved (resolved : Run (w.resolve t) es (.ok targets)) :
    (∀ a : Address, a.text ∈ targets → a.canonical = a) ∧ ∀ target ∈ targets, ∃ a : Address, a.text = target := by
  rw [resolve_run_iff] at resolved
  generalize same : (Except.ok targets : Except ResolveError (List String)) = result at resolved
  rcases resolved with failed | ⟨answer, host⟩
  · cases same
  cases answer with
  | none => cases same
  | some found =>
    obtain rfl := Except.ok.inj same
    have kept := kept_targetsOf w.families found
    constructor
    · intro a mem
      obtain ⟨⟨b, -, rfl⟩, -⟩ := (kept.mem_iff a).1 mem
      exact b.canonical_canonical
    · exact kept.addresses

/-- **A probe reads back the address that was found.** The text of an address that a target is resolved to is read as
that address, which is canonical. Whoever connects to the target connects to it, a request for a URL with a name is
sent to it, and no probe of a resolved target ever asks the network for a name. -/
theorem found_address_reached (resolved : Run (w.resolve t) es (.ok targets)) :
    (∀ a : Address, a.text ∈ targets → Address.ofText? a.text = some a ∧ a.canonical = a) ∧
      ∀ target ∈ targets, ∃ a : Address, a.text = target ∧ Peer.ofText target = .address a ∧
        (∀ url domain, url.host? = some (.name domain) → pinnedAddress url target = some a) ∧
          ∀ (c : Call) (s s' : Surroundings), c.target = target → c.probe ≠ endpoints.name →
            Network.AgreeAt (c.Reaches a) s.network s'.network → s.run c = s'.run c := by
  obtain ⟨canonical, addresses⟩ := exists_canonical_of_resolved resolved
  constructor
  · intro a mem
    exact ⟨a.ofText?_text, canonical a mem⟩
  · intro target mem
    obtain ⟨a, rfl⟩ := addresses target mem
    refine ⟨a, rfl, Peer.ofText_text a, ?_, ?_⟩
    · intro url domain named
      simp [pinnedAddress, named, Address.ofText?_text]
    · intro c s s' same resolves agree
      exact Surroundings.run_eq (by rw [same, Address.ofText?_text]) resolves agree

/-- A worker that knows the bundled probes. -/
def bundledWorker : Worker where
  registry := .bundled

/-- A test of a server whose address is found as an embedded one. -/
def mappedTest : Test where
  kind := "https"
  target := "https://mapped:8443/status"
  input := "https://mapped:8443/status must run https"
  arguments := .empty

/-- `::ffff:192.0.2.2`. -/
def mappedAddress : Address :=
  .v6 #v[0, 0, 0, 0, 0, 0xFFFF, 0xC000, 0x0202]

/-- It is probed at the IPv4 address, and the request for its name goes there. -/
theorem mapped_address_reached :
    Run (bundledWorker.resolve mappedTest) [.lookup "mapped" (some [mappedAddress])] (.ok ["192.0.2.2"]) ∧
      Address.ofText? "192.0.2.2" = some mappedAddress.canonical ∧
        ∃ url domain, requestUrl mappedTest = .ok url ∧ url.host? = some (.name domain) ∧
          pinnedAddress url "192.0.2.2" = some mappedAddress.canonical := by
  have host : hostOf mappedTest.target = .ok "mapped" := by decide +kernel
  have run : Run (bundledWorker.resolve mappedTest) [.lookup "mapped" (some [mappedAddress])] (.ok ["192.0.2.2"]) :=
    resolve_run_iff.2 (.looked (some [mappedAddress]) host)
  obtain ⟨read, reached⟩ := found_address_reached run
  have text : mappedAddress.canonical.text = "192.0.2.2" := by decide +kernel
  obtain ⟨a, same, -, pinned, -⟩ := reached "192.0.2.2" (by simp)
  obtain rfl : a = mappedAddress.canonical := Address.text_injective (same.trans text.symm)
  obtain ⟨url, asked, named⟩ : ∃ url, requestUrl mappedTest = .ok url ∧ url.host? = some (.name "mapped".toList) := by
    have found : (requestUrl mappedTest).toOption.bind Url.host? = some (.name "mapped".toList) := by decide +kernel
    cases asked : requestUrl mappedTest with
    | error e =>
      rw [asked] at found
      cases found
    | ok url =>
      rw [asked] at found
      exact ⟨url, rfl, found⟩
  refine ⟨run, ?_, url, _, asked, named, pinned url _ named⟩
  rw [← text]
  exact (read _ (by simp [text])).1

end Worker

end Lookout
