import Lookout.Proofs.Simulation.History

/-!
# The signal to stop

A consumer sees the signal between two payloads, and not while it waits for one. A pop that is under way when the
signal comes goes on until it finds a payload or its time is over; after that no other begins.
-/

namespace Lookout
set_option autoImplicit false
open Queue

/-- Whether a pop is under way: it has begun, and is not over. -/
def Phase.isLooking : Phase → Bool
  | .popping (.returned _) => false
  | .popping _ => true
  | _ => false

/-- Whether a payload is taken. -/
def Deed.isTaking : Deed → Bool
  | .took _ _ => true
  | .did _ => false

namespace Simulation

variable {s t : System} {e : Entry} {h : List Entry} {i : Nat} {r : Running} {c : Consumer}

/-- After the signal, what is taken is taken by the pop under way, which is over then. -/
theorem Turn.takings {w w' : World} {phase phase' : Phase} {deed : Option Deed}
    (turn : Turn true c w phase deed phase' w') :
    deed.toList.countP Deed.isTaking + phase'.isLooking.toNat ≤ phase.isLooking.toNat := by
  cases turn with
  | start uncancelled => cases uncancelled
  | fail uncancelled => cases uncancelled
  | take found => exact Nat.le_refl 1
  | look goes nothing => cases goes <;> simp [Phase.isLooking]
  | effect next left goes => rcases goes with rfl | ⟨till, rfl⟩ <;> simp [Phase.isLooking, Deed.isTaking]
  | stop | begin | again | finish | wake | resume => exact Nat.le_refl 0

theorem Told.isLooking_eq {phase phase' : Phase} (told : Told phase phase') : phase'.isLooking = phase.isLooking := by
  cases told with
  | unmoved => rfl
  | notified pop => cases pop <;> rfl

theorem History.takings (history : History s h t) (told : s.cancelled = true) (there : s.running[i]? = some r) :
    t.cancelled = true ∧ ∃ phase, t.running[i]? = some { r with phase } ∧
      (deeds i h).countP Deed.isTaking + phase.isLooking.toNat ≤ r.phase.isLooking.toNat := by
  induction history with
  | nil => exact ⟨told, r.phase, there, by simp [deeds]⟩
  | @snoc h u v e _ step ih =>
    obtain ⟨still, phase, here, before⟩ := ih
    refine ⟨step.cancelled still, ?_⟩
    obtain ⟨phase', after, ⟨world, turn⟩ | ⟨nothing, told⟩⟩ := step.at_consumer here
    · rw [still] at turn
      have last : (e.deedOf? i).toList.countP Deed.isTaking + phase'.isLooking.toNat ≤ phase.isLooking.toNat :=
        turn.takings
      refine ⟨phase', after, ?_⟩
      rw [deeds_concat, List.countP_append]
      omega
    · refine ⟨phase', after, ?_⟩
      rw [deeds_concat, nothing, told.isLooking_eq]
      simpa using before

/-- Some history in which a consumer takes a payload off its queue. -/
def CanTake (s : System) (i : Nat) (queue : String) : Prop :=
  ∃ h t p, History s h t ∧ Deed.took queue p ∈ deeds i h

theorem CanTake.before {queue : String} (step : Step s e t) (later : CanTake t i queue) : CanTake s i queue := by
  obtain ⟨h, u, p, history, mem⟩ := later
  refine ⟨[e] ++ h, u, p, (History.snoc .nil step).trans history, ?_⟩
  obtain ⟨e', old, deed⟩ := List.mem_filterMap.1 mem
  exact List.mem_filterMap.2 ⟨e', List.mem_cons_of_mem _ old, deed⟩

/-- A step of a pop is one of the consumer. -/
theorem step_of_goes {pop pop' : Pop} {store : Store} (there : s.running[i]? = some ⟨c, .popping pop⟩)
    (goes : pop.Goes c.source s.world.now s.world.store pop' store) :
    Step s (.turn i (System.deed? s.world c (.popping pop)))
      { s with world := { s.world with store }, running := s.running.set i ⟨c, .popping pop'⟩ } := by
  have next := Pop.step?_eq_some_iff.2 goes
  have step : System.step? s.cancelled s.world c (.popping pop) =
      some (.popping pop', { s.world with store }, false) := by
    cases goes <;> simp [System.step?, next]
  exact .turn there step

theorem canTake_of_registered {d : Nat} {notified : Bool}
    (there : s.running[i]? = some ⟨c, .popping (.registered d notified)⟩)
    (full : s.world.store.held c.source ≠ []) : CanTake s i c.source := by
  cases found : s.world.store.take? c.source with
  | none => exact absurd (Store.take?_eq_none.1 found) full
  | some taken =>
    have step := step_of_goes there (.take found)
    refine ⟨[_], _, taken.1, .snoc .nil step, ?_⟩
    simp [deeds, Entry.deedOf?, System.deed?, found]

theorem canTake_of_entered {d : Nat} (there : s.running[i]? = some ⟨c, .popping (.entered d)⟩)
    (full : s.world.store.held c.source ≠ []) : CanTake s i c.source := by
  have here : (s.running.set i ⟨c, .popping (.registered d false)⟩)[i]? = some ⟨c, .popping (.registered d false)⟩ :=
    List.getElem?_set_self (List.getElem?_eq_some_iff.1 there).1
  exact .before (step_of_goes there (.register d)) (canTake_of_registered here full)

/-- A pop that waits is notified, and looks again. -/
theorem canTake_of_waiting {d : Nat} {notified : Bool}
    (there : s.running[i]? = some ⟨c, .popping (.waiting d notified)⟩)
    (full : s.world.store.held c.source ≠ []) : CanTake s i c.source := by
  have told : (s.running.map System.notify)[i]? = some ⟨c, .popping (.waiting d true)⟩ := by
    rw [List.getElem?_map, there]
    rfl
  have here : ((s.running.map System.notify).set i ⟨c, .popping (.entered d)⟩)[i]? = some ⟨c, .popping (.entered d)⟩ :=
    List.getElem?_set_self (List.getElem?_eq_some_iff.1 told).1
  have announced : Step s .changed { s with running := s.running.map System.notify } := .announce
  exact .before announced (.before (step_of_goes told (.wake d)) (canTake_of_entered here full))

/-- A payload that comes while a pop is under way may be taken by it. -/
theorem canTake_of_isLooking (there : s.running[i]? = some r) (looking : r.phase.isLooking = true) :
    CanTake s i r.consumer.source := by
  obtain ⟨c, phase⟩ := r
  have full : (s.world.store.push c.source []).held c.source ≠ [] := by simp [Store.held_push]
  refine .before (.deliver c.source []) ?_
  cases phase with
  | popping pop =>
    cases pop with
    | entered d => exact canTake_of_entered there full
    | registered d notified => exact canTake_of_registered there full
    | waiting d notified => exact canTake_of_waiting there full
    | returned p => cases looking
  | ready | busy | asleep | paused | stopped => cases looking

/-- **What is pulled after the signal to stop**: at most one payload, and that only by a pop that was under way.
Such a pop may well pull one. -/
theorem pulled_after_signal (told : s.cancelled = true) (there : s.running[i]? = some r) :
    (∀ h t, History s h t → (deeds i h).countP Deed.isTaking ≤ r.phase.isLooking.toNat) ∧
      ((∃ h t p, History s h t ∧ Deed.took r.consumer.source p ∈ deeds i h) ↔ r.phase.isLooking = true) := by
  have most : ∀ h t, History s h t → (deeds i h).countP Deed.isTaking ≤ r.phase.isLooking.toNat := by
    intro h t history
    obtain ⟨-, phase, -, few⟩ := history.takings told there
    omega
  refine ⟨most, ?_, canTake_of_isLooking there⟩
  rintro ⟨h, t, p, history, mem⟩
  have one : 0 < (deeds i h).countP Deed.isTaking := List.countP_pos_iff.2 ⟨_, mem, rfl⟩
  have few := most h t history
  cases looking : r.phase.isLooking with
  | true => rfl
  | false =>
    rw [looking, Bool.toNat_false] at few
    omega

/-- A worker that knows no probes. -/
def plainWorker : Worker where
  registry := ⟨[], List.nodup_nil⟩

/-- That worker alone, with nothing to do. -/
def alone (phase : Phase) (cancelled : Bool) : System where
  world := {}
  running := [⟨plainWorker.consumer, phase⟩]
  cancelled := cancelled

/-- It was waiting when the signal came, and pulls one payload or none. -/
theorem pulled_while_waiting :
    (∀ h t, History (alone (.popping (.waiting 1000 false)) true) h t → (deeds 0 h).countP Deed.isTaking ≤ 1) ∧
      ∃ h t p, History (alone (.popping (.waiting 1000 false)) true) h t ∧ Deed.took "vigil.jobs" p ∈ deeds 0 h := by
  have there : (alone (.popping (.waiting 1000 false)) true).running[0]? =
      some ⟨plainWorker.consumer, .popping (.waiting 1000 false)⟩ := rfl
  obtain ⟨most, pulls⟩ := pulled_after_signal rfl there
  exact ⟨most, pulls.2 rfl⟩

/-- It begins, waits for a payload, is told to stop, and pulls one. -/
theorem pulled_though_told : ∃ before s after t p, History (alone .ready false) before s ∧ s.cancelled = true ∧
    History s after t ∧ Deed.took "vigil.jobs" p ∈ deeds 0 after := by
  have goes : ∀ {phase phase' : Phase} {pushed : Bool},
      System.step? false {} plainWorker.consumer phase = some (phase', {}, pushed) →
      Step (alone phase false) (.turn 0 (System.deed? {} plainWorker.consumer phase)) (alone phase' false) :=
    fun step => @Step.turn _ 0 ⟨plainWorker.consumer, _⟩ _ _ _ rfl step
  have start : History (alone .ready false) [] (alone .ready false) := .nil
  have registered := History.snoc (History.snoc start (goes rfl)) (goes rfl)
  have signalled := History.snoc (History.snoc registered (goes rfl)) .cancel
  have waiting : (alone (.popping (.waiting 1000 false)) true).running[0]? =
      some ⟨plainWorker.consumer, .popping (.waiting 1000 false)⟩ := rfl
  obtain ⟨h, t, p, history, mem⟩ := canTake_of_isLooking waiting rfl
  exact ⟨_, _, h, t, p, signalled, rfl, history, mem⟩

end Simulation

end Lookout
