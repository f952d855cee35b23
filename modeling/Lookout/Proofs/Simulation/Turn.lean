import Lookout.Simulation
import Lookout.Proofs.Activity.Course

/-!
# One step of a consumer

What a step of a consumer does that can be seen: it takes a payload, or its work has an effect. `Turn` lists the
steps with all that they change, and `turn_of_step?` says that there are no others.
-/

namespace Lookout
set_option autoImplicit false
open Activity Queue

/-- What an event leaves in the queues. -/
def Event.applyTo (s : Store) : Event → Store
  | .push queue p true => s.push queue p
  | _ => s

/-- What a consumer does that can be seen. -/
inductive Deed where
  /-- It takes a payload from a queue. -/
  | took (queue : String) (payload : Payload)
  /-- Its work has an effect. -/
  | did (event : Event)

/-- What a deed adds to a queue. -/
def Deed.posted? (queue : String) : Deed → Option Payload
  | .did (.push q p true) => if q = queue then some p else none
  | _ => none

/-- What a deed takes from a queue. -/
def Deed.taken? (queue : String) : Deed → Option Payload
  | .took q p => if q = queue then some p else none
  | _ => none

/-- The work that a consumer has begun: it has taken a payload and is not done with it. -/
def Phase.work? (c : Consumer) : Phase → Option (Activity Unit)
  | .popping (.returned (some p)) => some (c.handle p)
  | .busy work => some work
  | .asleep _ work => some work
  | _ => none

theorem held_applyTo (e : Event) (s : Store) (queue : String) :
    (e.applyTo s).held queue = s.held queue ++ ((Deed.did e).posted? queue).toList := by
  cases e with
  | push q p accepted =>
    cases accepted with
    | false => simp [Event.applyTo, Deed.posted?]
    | true =>
      simp only [Event.applyTo, Deed.posted?, Store.held_push]
      by_cases same : queue = q
      · simp [same]
      · simp [same, Ne.symm same]
  | lookup | call | wait | time => simp [Event.applyTo, Deed.posted?]

namespace Simulation

/-- The next effect of an activity and the answer that it gets. -/
def World.event? {α : Type} (w : World) : Activity α → Option Event
  | .done _ => none
  | .lookup host _ => some (.lookup host (w.hosts.lookup host))
  | .call c _ => some (.call c (w.prober.answer c).1)
  | .wait d _ => some (.wait d)
  | .time _ => some (.time w.clock)
  | .push queue p _ => some (.push queue p (w.push queue p).1)

/-- What the next step of a consumer does that can be seen. -/
def System.deed? (w : World) (c : Consumer) : Phase → Option Deed
  | .popping (.registered _ _) => (w.store.take? c.source).map fun found => .took c.source found.1
  | .busy work => (w.event? work).map .did
  | _ => none

/-- An activity that is not over gets the answer to its next effect. -/
theorem World.perform_of_not_done {α : Type} (w : World) (a : Activity α) (more : ∀ r, a ≠ .done r) :
    ∃ e b, w.event? a = some e ∧ Next a e b ∧ (w.perform a).2.store = e.applyTo w.store ∧
      ((∃ pushed, (w.perform a).1 = .going b pushed) ∨ ∃ till, (w.perform a).1 = .later till b) := by
  cases a with
  | done r => exact absurd rfl (more r)
  | lookup host next => exact ⟨_, _, rfl, .lookup host next _, rfl, .inl ⟨_, rfl⟩⟩
  | call c next =>
    refine ⟨_, _, rfl, .call c next _, ?_⟩
    by_cases instant : (w.prober.answer c).2.1 = 0
    · simp [perform, instant, Event.applyTo]
    · simp [perform, instant, Event.applyTo]
  | wait d next =>
    refine ⟨_, _, rfl, .wait d next, ?_⟩
    by_cases instant : d = 0
    · simp [perform, instant, Event.applyTo]
    · simp [perform, instant, Event.applyTo]
  | time next => exact ⟨_, _, rfl, .time next _, rfl, .inl ⟨_, rfl⟩⟩
  | push queue p next =>
    refine ⟨_, _, rfl, .push queue p next _, ?_, .inl ⟨_, rfl⟩⟩
    simp only [perform, World.push]
    split <;> rfl

/-- The steps of a consumer: where it stands before, what can be seen, and where it stands after. -/
inductive Turn (cancelled : Bool) (c : Consumer) (w : World) : Phase → Option Deed → Phase → World → Prop where
  | stop (told : cancelled = true) : Turn cancelled c w .ready none .stopped w
  | start (uncancelled : cancelled = false) : Turn cancelled c w .ready none (.popping (.start w.now c.poll)) w
  | fail {till : Nat} {w' : World} (uncancelled : cancelled = false) (same : w'.store = w.store) :
      Turn cancelled c w .ready none (.paused till) w'
  /-- A step of a pop that takes nothing. -/
  | look {pop pop' : Pop} (goes : pop.Goes c.source w.now w.store pop' w.store)
      (nothing : ∀ p, pop' ≠ .returned (some p)) : Turn cancelled c w (.popping pop) none (.popping pop') w
  | take {d : Nat} {notified : Bool} {p : Payload} {store : Store}
      (found : w.store.take? c.source = some (p, store)) :
      Turn cancelled c w (.popping (.registered d notified)) (some (.took c.source p))
        (.popping (.returned (some p))) { w with store }
  | begin (p : Payload) : Turn cancelled c w (.popping (.returned (some p))) none (.busy (c.handle p)) w
  | again : Turn cancelled c w (.popping (.returned none)) none .ready w
  | effect {a b : Activity Unit} {e : Event} {phase : Phase} {w' : World} (next : Next a e b)
      (left : w'.store = e.applyTo w.store) (goes : phase = .busy b ∨ ∃ till, phase = .asleep till b) :
      Turn cancelled c w (.busy a) (some (.did e)) phase w'
  | finish : Turn cancelled c w (.busy (.done ())) none .ready w
  | wake {till : Nat} {work : Activity Unit} (due : till ≤ w.now) :
      Turn cancelled c w (.asleep till work) none (.busy work) w
  | resume {till : Nat} (due : cancelled = true ∨ till ≤ w.now) : Turn cancelled c w (.paused till) none .ready w

/-- A step of a consumer at work on an activity. -/
theorem turn_of_busy {cancelled pushed : Bool} {c : Consumer} {w w' : World} {work : Activity Unit} {phase : Phase}
    (step : System.step? cancelled w c (.busy work) = some (phase, w', pushed)) :
    Turn cancelled c w (.busy work) (System.deed? w c (.busy work)) phase w' := by
  by_cases ended : ∃ r, work = .done r
  · obtain ⟨r, rfl⟩ := ended
    simp only [System.step?, World.perform, Option.some.injEq, Prod.mk.injEq] at step
    obtain ⟨rfl, rfl, -⟩ := step
    exact .finish
  · have more : ∀ r, work ≠ .done r := fun r e => ended ⟨r, e⟩
    obtain ⟨e, b, event, next, store, goes⟩ := w.perform_of_not_done work more
    simp only [System.deed?, event, Option.map_some]
    simp only [System.step?] at step
    generalize w.perform work = result at step store goes
    obtain ⟨progress, after⟩ := result
    rcases goes with ⟨pushed', rfl⟩ | ⟨till, rfl⟩
    · simp only [Option.some.injEq, Prod.mk.injEq] at step
      obtain ⟨rfl, rfl, -⟩ := step
      exact .effect next store (.inl rfl)
    · simp only [Option.some.injEq, Prod.mk.injEq] at step
      obtain ⟨rfl, rfl, -⟩ := step
      exact .effect next store (.inr ⟨till, rfl⟩)

/-- A step of a pop that is not over. -/
theorem turn_of_popping {cancelled : Bool} {c : Consumer} {w : World} {pop pop' : Pop} {store : Store}
    (goes : pop.Goes c.source w.now w.store pop' store) :
    Turn cancelled c w (.popping pop) (System.deed? w c (.popping pop)) (.popping pop') { w with store } := by
  cases goes with
  | take found =>
    simp only [System.deed?, found, Option.map_some]
    exact .take found
  | miss nothing =>
    simp only [System.deed?, Store.take?_eq_none.2 nothing, Option.map_none]
    exact .look (.miss nothing) (by simp)
  | register d => exact .look (.register d) (by simp)
  | wake d => exact .look (.wake d) (by simp)
  | giveUp late => exact .look (.giveUp late) (by simp)

/-- Every step of a consumer is one of these. -/
theorem turn_of_step? {cancelled pushed : Bool} {c : Consumer} {w w' : World} {phase phase' : Phase}
    (step : System.step? cancelled w c phase = some (phase', w', pushed)) :
    Turn cancelled c w phase (System.deed? w c phase) phase' w' := by
  cases phase with
  | ready =>
    simp only [System.step?] at step
    cases told : cancelled with
    | true =>
      simp only [told, if_true, Option.some.injEq, Prod.mk.injEq] at step
      obtain ⟨rfl, rfl, -⟩ := step
      exact .stop rfl
    | false =>
      simp only [told, Bool.false_eq_true, if_false] at step
      split at step
      · simp only [Option.some.injEq, Prod.mk.injEq] at step
        obtain ⟨rfl, rfl, -⟩ := step
        exact .start rfl
      · simp only [Option.some.injEq, Prod.mk.injEq] at step
        obtain ⟨rfl, rfl, -⟩ := step
        exact .fail rfl rfl
  | popping pop =>
    cases pop with
    | returned p =>
      cases p with
      | none =>
        simp only [System.step?, Option.some.injEq, Prod.mk.injEq] at step
        obtain ⟨rfl, rfl, -⟩ := step
        exact .again
      | some p =>
        simp only [System.step?, Option.some.injEq, Prod.mk.injEq] at step
        obtain ⟨rfl, rfl, -⟩ := step
        exact .begin p
    | entered | registered | waiting =>
      simp only [System.step?, Option.map_eq_some_iff, Prod.exists, Prod.mk.injEq] at step
      obtain ⟨pop', store, goes, rfl, rfl, -⟩ := step
      exact turn_of_popping (Pop.step?_eq_some_iff.1 goes)
  | busy work => exact turn_of_busy step
  | asleep till work =>
    simp only [System.step?, Option.ite_none_right_eq_some, Option.some.injEq, Prod.mk.injEq] at step
    obtain ⟨due, rfl, rfl, -⟩ := step
    exact .wake due
  | paused till =>
    simp only [System.step?, Option.ite_none_right_eq_some, Option.some.injEq, Prod.mk.injEq, Bool.or_eq_true,
      decide_eq_true_eq] at step
    obtain ⟨due, rfl, rfl, -⟩ := step
    exact .resume due
  | stopped => cases step

end Simulation

end Lookout
