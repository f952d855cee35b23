import Lookout.Queue.Store

/-!
# Waiting for a payload

A pop first registers its interest, then looks, and waits only if it found nothing. A push appends its
payload and then notifies every pop that has registered, whatever its queue. A pop that is notified
registers and looks again; one that is not gives up at its deadline.
-/

namespace Lookout.Queue
set_option autoImplicit false

/-- Where a pop stands. Times are in milliseconds. -/
inductive Pop where
  /-- About to register. -/
  | entered (deadline : Nat)
  /-- Registered and about to look; `notified` tells whether a push was announced since. -/
  | registered (deadline : Nat) (notified : Bool)
  /-- Found nothing, and waits for a push or the deadline. -/
  | waiting (deadline : Nat) (notified : Bool)
  /-- Over. Nothing was there in time if there is no payload. -/
  | returned (payload : Option Payload)
deriving DecidableEq

namespace Pop

/-- A pop that begins at `now` and waits for `wait` milliseconds. -/
def start (now wait : Nat) : Pop :=
  entered (now + wait)

/-- What a push announces to a pop. -/
def notify : Pop → Pop
  | registered d _ => registered d true
  | waiting d _ => waiting d true
  | p => p

/-- The next step of a pop on `queue`; none if it has to wait, or is over. -/
def step? (queue : String) (now : Nat) (s : Store) : Pop → Option (Pop × Store)
  | entered d => some (registered d false, s)
  | registered d notified =>
    match s.take? queue with
    | some (p, s) => some (returned (some p), s)
    | none => some (waiting d notified, s)
  | waiting d notified =>
    if notified then some (entered d, s)
    else if d ≤ now then some (returned none, s)
    else none
  | returned _ => none

/-- What one step of a pop on `queue` does to it and to the store. -/
inductive Goes (queue : String) (now : Nat) (s : Store) : Pop → Pop → Store → Prop where
  | register (d : Nat) : Goes queue now s (entered d) (registered d false) s
  /-- The look finds a payload and removes it. -/
  | take {d : Nat} {notified : Bool} {p : Payload} {s' : Store} (found : s.take? queue = some (p, s')) :
      Goes queue now s (registered d notified) (returned (some p)) s'
  /-- The look finds nothing. -/
  | miss {d : Nat} {notified : Bool} (nothing : s.held queue = []) :
      Goes queue now s (registered d notified) (waiting d notified) s
  | wake (d : Nat) : Goes queue now s (waiting d true) (entered d) s
  | giveUp {d : Nat} (late : d ≤ now) : Goes queue now s (waiting d false) (returned none) s

theorem step?_eq_some_iff {queue : String} {now : Nat} {s s' : Store} {pop pop' : Pop} :
    pop.step? queue now s = some (pop', s') ↔ Goes queue now s pop pop' s' := by
  constructor
  · intro step
    cases pop with
    | entered d =>
      obtain ⟨rfl, rfl⟩ := Prod.mk.inj (Option.some.inj step)
      exact .register d
    | registered d notified =>
      simp only [step?] at step
      split at step
      · next found =>
        obtain ⟨rfl, rfl⟩ := Prod.mk.inj (Option.some.inj step)
        exact .take found
      · next nothing =>
        obtain ⟨rfl, rfl⟩ := Prod.mk.inj (Option.some.inj step)
        exact .miss (Store.take?_eq_none.1 nothing)
    | waiting d notified =>
      simp only [step?] at step
      cases notified with
      | true =>
        obtain ⟨rfl, rfl⟩ := Prod.mk.inj (Option.some.inj step)
        exact .wake d
      | false =>
        by_cases late : d ≤ now
        · simp only [late, if_true] at step
          obtain ⟨rfl, rfl⟩ := Prod.mk.inj (Option.some.inj step)
          exact .giveUp late
        · simp [late] at step
    | returned p => cases step
  · intro goes
    cases goes with
    | register d => rfl
    | take found => simp [step?, found]
    | miss nothing => simp [step?, Store.take?_eq_none.2 nothing]
    | wake d => rfl
    | giveUp late => simp [step?, late]

/-- A step of a pop removes nothing from other queues, and at most the oldest payload of its own. -/
theorem Goes.held {queue : String} {now : Nat} {s s' : Store} {pop pop' : Pop} (h : Goes queue now s pop pop' s')
    (key : String) : s.held key = s'.held key ∨ ∃ p, key = queue ∧ s.held key = p :: s'.held key := by
  cases h with
  | take found =>
    obtain ⟨own, others⟩ := Store.take?_eq_some found
    by_cases same : key = queue
    · subst same
      exact .inr ⟨_, rfl, own⟩
    · exact .inl (others key same).symm
  | register | miss | wake | giveUp => exact .inl rfl

/-- When a pop that waits gives up. -/
def deadline? : Pop → Option Nat
  | waiting d _ => some d
  | _ => none

end Pop

end Lookout.Queue
