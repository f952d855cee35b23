import Lookout.Consumer

/-!
# Runs on virtual time

Consumers, queues and probes run together on a clock that stands still while anything can go on, and
then jumps to the next time at which something does. What can go on at one time goes on in a fixed
order: the signal to stop, deliveries that are due, and then the consumers in turn.
-/

namespace Lookout.Simulation
set_option autoImplicit false
open Queue

/-- A payload that someone else pushes at some time. -/
structure Delivery where
  due : Nat
  queue : String
  payload : Payload
deriving DecidableEq

/-- How a scripted probe answers its calls: one outcome after the other, and then the last again. -/
structure Script where
  outcomes : List (Option String) := []
  /-- How long a call takes, in milliseconds. -/
  takes : Nat := 0
deriving Inhabited

/-- How a call of a probe goes: what it answers, how long it takes, and what is left of the scripts. -/
inductive Prober where
  /-- Probes that follow a script. -/
  | scripted (scripts : List (String × Script))
  /-- Probes that answer at once, and each call alike. -/
  | steady (answer : Call → Option String)

namespace Prober

/-- The next outcome of a script, and what is left of it. -/
def nextOutcome : List (Option String) → Option String × List (Option String)
  | [] => (none, [])
  | [o] => (o, [o])
  | o :: r => (o, r)

/-- The answer to a call, how long it takes, and the prober after it. -/
def answer (p : Prober) (c : Call) : Option String × Nat × Prober :=
  match p with
  | steady f => (f c, 0, p)
  | scripted scripts =>
    match scripts.lookup c.probe with
    | none => (none, 0, p)
    | some s =>
      let (outcome, rest) := nextOutcome s.outcomes
      let scripts := scripts.map fun e => if e.1 = c.probe then (e.1, { s with outcomes := rest }) else e
      (outcome, s.takes, scripted scripts)

end Prober

/-- Everything outside the consumers. -/
structure World where
  /-- Milliseconds since the beginning. -/
  now : Nat := 0
  store : Store := {}
  /-- Queues that accept no push. -/
  refusing : List String := []
  /-- How many of the next pops fail. -/
  failingPops : Nat := 0
  deliveries : List Delivery := []
  prober : Prober := .scripted []
  /-- The addresses of hosts. -/
  hosts : List (String × List Address) := []
  /-- The time of day, in seconds since 1970. -/
  clock : Int64 := 0
  /-- The calls of probes so far, last first. -/
  calls : List Call := []
  /-- The hosts looked up so far, last first. -/
  lookups : List String := []

namespace World

/-- One push and the answer to it. -/
def push (w : World) (queue : String) (p : Payload) : Bool × World :=
  if w.refusing.contains queue then (false, w) else (true, { w with store := w.store.push queue p })

/-- What becomes of an activity by its next effect. -/
inductive Progress (α : Type) where
  /-- It is over. -/
  | finished (result : α)
  /-- It goes on; `pushed` tells whether it pushed a payload. -/
  | going (rest : Activity α) (pushed : Bool)
  /-- It goes on at a later time. -/
  | later (till : Nat) (rest : Activity α)

/-- Gives an activity the answer to its next effect. A call is recorded when it begins. -/
def perform {α : Type} (w : World) : Activity α → Progress α × World
  | .done r => (.finished r, w)
  | .lookup host next =>
    (.going (next (w.hosts.lookup host)) false, { w with lookups := host :: w.lookups })
  | .call c next =>
    let (outcome, takes, prober) := w.prober.answer c
    let w := { w with calls := c :: w.calls, prober }
    if takes = 0 then (.going (next outcome) false, w) else (.later (w.now + takes) (next outcome), w)
  | .wait d next => if d = 0 then (.going (next ()) false, w) else (.later (w.now + d) (next ()), w)
  | .time next => (.going (next w.clock) false, w)
  | .push queue p next =>
    let (accepted, w) := w.push queue p
    (.going (next accepted) accepted, w)

/-- The deliveries that are due, in their order, and the others. -/
def due (w : World) : List Delivery × List Delivery :=
  (w.deliveries.filter (·.due ≤ w.now), w.deliveries.filter (w.now < ·.due))

/-- Makes the deliveries that are due. The first part tells whether one was accepted. -/
def deliver (w : World) : Bool × World :=
  let (now, later) := w.due
  now.foldl
    (fun (pushed, w) d =>
      let (accepted, w) := w.push d.queue d.payload
      (pushed || accepted, w))
    (false, { w with deliveries := later })

/-- The earliest of some times. -/
def earliest (times : List (Option Nat)) : Option Nat :=
  (times.filterMap id).min?

/-- The clock at a later time. -/
def advance (w : World) (till : Nat) : World :=
  { w with now := max w.now till }

/-- When the next delivery is due. -/
def nextDelivery (w : World) : Option Nat :=
  (w.deliveries.map Delivery.due).min?

/-- Lets time pass up to `till`, making the deliveries due until then. -/
def passTo (till : Nat) : Nat → World → World
  | 0, w => w.advance till
  | fuel + 1, w =>
    match w.nextDelivery with
    | some t => if t ≤ till then passTo till fuel (w.advance t).deliver.2 else w.advance till
    | none => w.advance till

/-- Runs an activity to its end, up to `fuel` effects. -/
def complete {α : Type} : Nat → World → Activity α → Option α × World
  | 0, w, _ => (none, w)
  | fuel + 1, w, a =>
    match w.perform a with
    | (.finished r, w) => (some r, w)
    | (.going rest _, w) => complete fuel w rest
    | (.later till rest, w) => complete fuel (passTo till w.deliveries.length w) rest

/-- Runs a pop on `queue` to its end, up to `fuel` steps. -/
def completePop (queue : String) : Nat → World → Pop → Option Payload × World
  | 0, w, _ => (none, w)
  | fuel + 1, w, pop =>
    match pop with
    | .returned r => (r, w)
    | pop =>
      match pop.step? queue w.now w.store with
      | some (pop, store) => completePop queue fuel { w with store } pop
      | none =>
        match earliest [pop.deadline?, w.nextDelivery] with
        | none => (none, w)
        | some t =>
          let (pushed, w) := (w.advance t).deliver
          completePop queue fuel w (if pushed then pop.notify else pop)

end World

/-- A consumer and where it stands. -/
structure Running where
  consumer : Consumer
  phase : Phase

/-- Consumers at work. -/
structure System where
  world : World
  running : List Running
  /-- Whether the consumers have been told to stop. -/
  cancelled : Bool := false

namespace System

/-- What a push announces to a consumer. -/
def notify (r : Running) : Running :=
  match r.phase with
  | .popping pop => { r with phase := .popping pop.notify }
  | _ => r

/-- The next step of one consumer: the world and the phase after it, and whether a payload was pushed.
None if the consumer has to wait, or has stopped. -/
def step? (cancelled : Bool) (w : World) (c : Consumer) : Phase → Option (Phase × World × Bool)
  | .ready =>
    if cancelled then some (.stopped, w, false)
    else
      match w.failingPops with
      | 0 => some (.popping (.start w.now c.poll), w, false)
      | more + 1 => some (.paused (w.now + pauseAfterFailure), { w with failingPops := more }, false)
  | .popping (.returned (some p)) => some (.busy (c.handle p), w, false)
  | .popping (.returned none) => some (.ready, w, false)
  | .popping pop =>
    (pop.step? c.source w.now w.store).map fun next => (.popping next.1, { w with store := next.2 }, false)
  | .busy work =>
    match w.perform work with
    | (.finished _, w) => some (.ready, w, false)
    | (.going rest pushed, w) => some (.busy rest, w, pushed)
    | (.later till rest, w) => some (.asleep till rest, w, false)
  | .asleep till work => if till ≤ w.now then some (.busy work, w, false) else none
  | .paused till => if cancelled || till ≤ w.now then some (.ready, w, false) else none
  | .stopped => none

/-- When a consumer that waits goes on. -/
def wakesAt : Phase → Option Nat
  | .popping pop => pop.deadline?
  | .asleep till _ => some till
  | .paused till => some till
  | _ => none

/-- Lets the first consumer that can go on take one step, and puts it in front: it stays at work until
it has to wait. None if no consumer can go on. -/
def turn? (s : System) : List Running → List Running → Option System
  | _, [] => none
  | before, r :: after =>
    match step? s.cancelled s.world r.consumer r.phase with
    | some (phase, world, pushed) =>
      let others := before ++ after
      some { s with world, running := { r with phase } :: if pushed then others.map notify else others }
    | none => turn? s (before ++ [r]) after

/-- Makes the deliveries that are due. -/
def deliver (s : System) : System :=
  let (pushed, world) := s.world.deliver
  { s with world, running := if pushed then s.running.map notify else s.running }

def isStopped (r : Running) : Bool :=
  match r.phase with
  | .stopped => true
  | _ => false

/-- Runs consumers until all have stopped, up to `fuel` turns. They are told to stop at `cancelAt`. -/
def run (cancelAt : Nat) : Nat → System → System
  | 0, s => s
  | fuel + 1, s =>
    if s.running.all isStopped then s
    else
      match turn? s [] s.running with
      | some s => run cancelAt fuel s
      | none =>
        let cancel := if s.cancelled then none else some cancelAt
        match World.earliest (cancel :: s.world.nextDelivery :: s.running.map (wakesAt ·.phase)) with
        | none => s
        | some t =>
          let s := { s with world := s.world.advance t, cancelled := s.cancelled || cancelAt ≤ t }
          run cancelAt fuel s.deliver

end System

/-- How many turns a run may take. -/
def maxTurns : Nat := 1000000

/-- Runs consumers from now on and tells them to stop after `duration` milliseconds. -/
def runFor (w : World) (consumers : List Consumer) (duration : Nat) : World :=
  (System.run (w.now + duration) maxTurns
    { world := w, running := consumers.map (⟨·, .ready⟩), cancelled := duration == 0 }).world

/-- Pops from a queue, waiting up to `wait` milliseconds. None in place of an answer if the pop fails. -/
def pop (w : World) (queue : String) (wait : Nat) : Option (Option Payload) × World :=
  match w.failingPops with
  | more + 1 => (none, { w with failingPops := more })
  | 0 =>
    let (r, w) := w.completePop queue maxTurns (.start w.now wait)
    (some r, w)

end Lookout.Simulation
