import Lookout.Simulation
import Mathlib.Data.List.Induction

/-!
# The clock while an activity runs

A call of a probe takes its time and a wait its duration. Whatever deliveries fall due in between, the clock has then
moved on by just that much, and the calls are recorded.
-/

namespace Lookout.Simulation.World
set_option autoImplicit false

/-- Some time has passed, and no probe was called. -/
structure Passed (w : World) (duration : Nat) (w' : World) : Prop where
  now : w'.now = w.now + duration
  prober : w'.prober = w.prober
  calls : w'.calls = w.calls

variable {w w' w'' : World} {d d' : Nat} {α : Type}

theorem Passed.trans (h : Passed w d w') (h' : Passed w' d' w'') : Passed w (d + d') w'' where
  now := by rw [h'.now, h.now, Nat.add_assoc]
  prober := h'.prober.trans h.prober
  calls := h'.calls.trans h.calls

theorem passed_push (w : World) (queue : String) (p : Payload) : Passed w 0 (w.push queue p).2 := by
  unfold push
  split <;> exact ⟨rfl, rfl, rfl⟩

theorem passed_deliver (w : World) : Passed w 0 w.deliver.2 := by
  unfold deliver
  refine List.foldlRecOn (motive := fun made : Bool × World => Passed w 0 made.2) _ _ ⟨rfl, rfl, rfl⟩ ?_
  intro made passed e _
  exact passed.trans (passed_push made.2 e.queue e.payload)

theorem passed_advance {till : Nat} (later : w.now ≤ till) : Passed w (till - w.now) (w.advance till) where
  now := by
    change max w.now till = _
    omega
  prober := rfl
  calls := rfl

/-- Deliveries do not hold up the clock. -/
theorem passed_passTo {till : Nat} (later : w.now ≤ till) (fuel : Nat) :
    Passed w (till - w.now) (passTo till fuel w) := by
  induction fuel generalizing w with
  | zero => exact passed_advance later
  | succ fuel ih =>
    unfold passTo
    split
    · next t _ =>
      split
      · next due =>
        have first : Passed w (max w.now t - w.now) (w.advance t).deliver.2 :=
          (show Passed w (max w.now t - w.now) (w.advance t) from ⟨by change max w.now t = _; omega, rfl, rfl⟩).trans
            (passed_deliver _)
        have rest := ih (w := (w.advance t).deliver.2) (by rw [first.now]; omega)
        have whole := first.trans rest
        rw [first.now] at whole
        convert whole using 1
        omega
      · exact passed_advance later
    · exact passed_advance later

/-- A call is answered, and has taken its time. -/
theorem complete_call (fuel : Nat) (w : World) (c : Call) (next : Option String → Activity α) :
    ∃ w', complete (fuel + 1) w (.call c next) = complete fuel w' (next (w.prober.answer c).1) ∧
      w'.now = w.now + (w.prober.answer c).2.1 ∧ w'.prober = (w.prober.answer c).2.2 ∧ w'.calls = c :: w.calls := by
  by_cases atOnce : (w.prober.answer c).2.1 = 0
  · refine ⟨{ w with calls := c :: w.calls, prober := (w.prober.answer c).2.2 }, ?_, by simp [atOnce], rfl, rfl⟩
    simp [complete, perform, atOnce]
  · have passed := @passed_passTo { w with calls := c :: w.calls, prober := (w.prober.answer c).2.2 }
      (w.now + (w.prober.answer c).2.1) (Nat.le_add_right _ _) w.deliveries.length
    refine ⟨_, ?_, ?_, passed.prober, passed.calls⟩
    · simp [complete, perform, atOnce]
    · rw [passed.now, Nat.add_sub_cancel_left]

theorem complete_wait (fuel : Nat) (w : World) (duration : Nat) (next : Unit → Activity α) :
    ∃ w', complete (fuel + 1) w (.wait duration next) = complete fuel w' (next ()) ∧ Passed w duration w' := by
  by_cases zero : duration = 0
  · exact ⟨w, by simp [complete, perform, zero], by simp [zero], rfl, rfl⟩
  · have passed := @passed_passTo w (w.now + duration) (Nat.le_add_right _ _) w.deliveries.length
    rw [Nat.add_sub_cancel_left] at passed
    exact ⟨_, by simp [complete, perform, zero], passed⟩

end Lookout.Simulation.World
