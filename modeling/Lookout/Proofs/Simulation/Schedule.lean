import Lookout.Proofs.Simulation.History
import Mathlib.Data.List.Perm.Basic

/-!
# The scheduler makes histories

A run on virtual time lets one consumer get on after another, makes the deliveries that are due and moves the clock.
All of that are steps of a history, so that what holds of every history holds of every run. The scheduler keeps the
consumer that is at work in front; a history leaves each in its place.
-/

namespace Lookout.Simulation
set_option autoImplicit false
open Queue

/-- The systems differ at most in the order of their consumers. -/
structure Shuffled (s t : System) : Prop where
  world : s.world = t.world
  cancelled : s.cancelled = t.cancelled
  running : s.running.Perm t.running

variable {s t u : System}

/-- A consumer that has pushed a payload is at work. -/
theorem busy_of_pushed {cancelled : Bool} {w w' : World} {c : Consumer} {phase phase' : Phase}
    (step : System.step? cancelled w c phase = some (phase', w', true)) : ∃ work, phase' = .busy work := by
  cases phase with
  | busy work =>
    simp only [System.step?] at step
    split at step
    · cases step
    · next rest pushed world goes =>
      obtain ⟨rfl, -⟩ := Prod.mk.inj (Option.some.inj step)
      exact ⟨rest, rfl⟩
    · cases step
  | popping pop =>
    cases pop with
    | returned p => cases p <;> cases step
    | entered | registered | waiting => simp [System.step?] at step
  | ready =>
    simp only [System.step?] at step
    split at step
    · cases step
    · split at step <;> cases step
  | asleep till work => simp [System.step?] at step
  | paused till => simp [System.step?] at step
  | stopped => cases step

/-- The consumer that gets on is one of those that are running. -/
theorem turn?_eq_some {before after : List Running} (turn : System.turn? s before after = some t) :
    ∃ front r back phase world pushed, before ++ after = front ++ r :: back ∧
      System.step? s.cancelled s.world r.consumer r.phase = some (phase, world, pushed) ∧
      t = { s with
        world
        running := { r with phase } :: if pushed then (front ++ back).map System.notify else front ++ back } := by
  induction after generalizing before with
  | nil => cases turn
  | cons r after ih =>
    unfold System.turn? at turn
    split at turn
    · next phase world pushed step =>
      obtain rfl := Option.some.inj turn
      exact ⟨before, r, after, phase, world, pushed, rfl, step, rfl⟩
    · simpa using ih turn

/-- A turn of the scheduler is a step of one consumer, and an announcement if it has pushed a payload. -/
theorem Shuffled.turn (same : Shuffled s u) (turn : System.turn? s [] s.running = some t) :
    ∃ h v, History u h v ∧ Shuffled t v := by
  obtain ⟨front, r, back, phase, world, pushed, split, step, rfl⟩ := turn?_eq_some turn
  rw [List.nil_append] at split
  have whole : (r :: (front ++ back)).Perm u.running := by
    rw [← List.perm_middle.congr_left, ← split]
    exact same.running
  obtain ⟨i, less, there⟩ := List.getElem_of_mem (whole.mem_iff.1 List.mem_cons_self)
  have others : (front ++ back).Perm (u.running.eraseIdx i) := by
    have all : (r :: u.running.eraseIdx i).Perm u.running := there ▸ List.getElem_cons_eraseIdx_perm less
    exact (whole.trans all.symm).cons_inv
  have order : ({ r with phase } :: (front ++ back)).Perm (u.running.set i { r with phase }) :=
    (others.cons _).trans (List.set_perm_cons_eraseIdx less _).symm
  rw [same.world, same.cancelled] at step
  have own : Step u _ { u with world, running := u.running.set i { r with phase } } :=
    .turn (List.getElem?_eq_some_iff.2 ⟨less, there⟩) step
  cases pushed with
  | false => exact ⟨_, _, .snoc .nil own, rfl, same.cancelled, order⟩
  | true =>
    refine ⟨_, _, .snoc (.snoc .nil own) .announce, rfl, same.cancelled, ?_⟩
    -- the consumer that has pushed is at work, and so it is not told of its own push
    obtain ⟨work, rfl⟩ := busy_of_pushed step
    exact order.map System.notify

/-- A push, accepted or refused. -/
theorem history_of_push (s : System) (queue : String) (payload : Payload) :
    ∃ h, History s h { s with world := (s.world.push queue payload).2 } := by
  unfold World.push
  split
  · exact ⟨[], .nil⟩
  · exact ⟨_, .snoc .nil (.deliver queue payload)⟩

/-- Deliveries one after the other. -/
theorem history_of_deliveries (s : System) (ds : List Delivery) (pushed : Bool) :
    ∃ h, History s h { s with world := (ds.foldl (fun (pushed, w) d =>
      let (accepted, w) := w.push d.queue d.payload
      (pushed || accepted, w)) (pushed, s.world)).2 } := by
  induction ds generalizing s pushed with
  | nil => exact ⟨[], .nil⟩
  | cons d ds ih =>
    obtain ⟨h, first⟩ := history_of_push s d.queue d.payload
    obtain ⟨h', later⟩ := ih { s with world := (s.world.push d.queue d.payload).2 }
      (pushed || (s.world.push d.queue d.payload).1)
    exact ⟨h ++ h', first.trans later⟩

/-- The deliveries that are due are made, and announced if one was accepted. -/
theorem Shuffled.deliver (same : Shuffled s u) : ∃ h v, History u h v ∧ Shuffled s.deliver v := by
  have taken : Step u .changed { u with world := { u.world with deliveries := u.world.due.2 } } :=
    .change rfl (Nat.le_refl _)
  obtain ⟨h, made⟩ := history_of_deliveries { u with world := { u.world with deliveries := u.world.due.2 } }
    u.world.due.1 false
  have delivered : History u ([] ++ [.changed] ++ h) { u with world := u.world.deliver.2 } :=
    (History.snoc .nil taken).trans made
  unfold System.deliver
  rw [same.world]
  cases accepted : u.world.deliver.1 with
  | false => exact ⟨_, _, delivered, by simp, same.cancelled, by simpa [accepted] using same.running⟩
  | true =>
    exact ⟨_, _, .snoc delivered .announce, by simp, same.cancelled,
      by simpa [accepted] using same.running.map System.notify⟩

/-- The clock moves on, and the consumers are told to stop if it is time. -/
theorem Shuffled.advance (same : Shuffled s u) (till : Nat) (stop : Bool) :
    ∃ h v, History u h v ∧ Shuffled { s with world := s.world.advance till, cancelled := s.cancelled || stop } v := by
  have later : Step u .changed { u with world := u.world.advance till } := .change rfl (Nat.le_max_left _ _)
  rw [same.world, same.cancelled]
  cases stop with
  | false => exact ⟨_, _, .snoc .nil later, rfl, by simp, same.running⟩
  | true => exact ⟨_, _, .snoc (.snoc .nil later) .cancel, rfl, by simp, same.running⟩

/-- **A run is a history**, up to the order in which the consumers stand. -/
theorem run_history (cancelAt fuel : Nat) (s : System) :
    ∃ h t, History s h t ∧ Shuffled (System.run cancelAt fuel s) t := by
  have along : ∀ {s u}, Shuffled s u → ∃ h t, History u h t ∧ Shuffled (System.run cancelAt fuel s) t := by
    induction fuel with
    | zero => exact fun same => ⟨_, _, .nil, same⟩
    | succ fuel ih =>
      intro s u same
      unfold System.run
      split
      · exact ⟨_, _, .nil, same⟩
      · split
        · next next turn =>
          obtain ⟨h, v, first, same⟩ := same.turn turn
          obtain ⟨h', t, later, same⟩ := ih same
          exact ⟨_, t, first.trans later, same⟩
        · simp only
          split
          · exact ⟨_, _, .nil, same⟩
          · next till _ =>
            obtain ⟨h, v, first, same⟩ := same.advance till (decide (cancelAt ≤ till))
            obtain ⟨h', w, second, same⟩ := same.deliver
            obtain ⟨h'', t, later, same⟩ := ih same
            exact ⟨_, t, (first.trans second).trans later, same⟩
  exact along ⟨rfl, rfl, .refl _⟩

/-- The world after a run of consumers is one that a history leads to. -/
theorem runFor_history (w : World) (consumers : List Consumer) (duration : Nat) :
    ∃ h t, History { world := w, running := consumers.map (⟨·, .ready⟩), cancelled := duration == 0 } h t ∧
      t.world = runFor w consumers duration := by
  obtain ⟨h, t, history, same⟩ := run_history (w.now + duration) maxTurns
    { world := w, running := consumers.map (⟨·, .ready⟩), cancelled := duration == 0 }
  exact ⟨h, t, history, same.world.symm⟩

end Lookout.Simulation
