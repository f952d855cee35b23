import Lookout.Proofs.Activity.Run

/-!
# Activities under way

Where an activity stands after some of its effects have been answered. When nothing is left to do, what has
happened is a run of it.
-/

namespace Lookout.Activity
set_option autoImplicit false

variable {α : Type}

/-- The next effect with its answer, and how the activity goes on. -/
inductive Next : Activity α → Event → Activity α → Prop where
  | lookup (host : String) (next : Option (List Address) → Activity α) (found : Option (List Address)) :
      Next (.lookup host next) (.lookup host found) (next found)
  | call (c : Call) (next : Option String → Activity α) (failure : Option String) :
      Next (.call c next) (.call c failure) (next failure)
  | wait (duration : Nat) (next : Unit → Activity α) : Next (.wait duration next) (.wait duration) (next ())
  | time (next : Int64 → Activity α) (now : Int64) : Next (.time next) (.time now) (next now)
  | push (queue : String) (payload : Payload) (next : Bool → Activity α) (accepted : Bool) :
      Next (.push queue payload next) (.push queue payload accepted) (next accepted)

/-- Where the activity stands after some events. -/
inductive Leads (a : Activity α) : List Event → Activity α → Prop where
  | nil : Leads a [] a
  | snoc {es : List Event} {e : Event} {b c : Activity α} : Leads a es b → Next b e c → Leads a (es ++ [e]) c

variable {a b : Activity α} {es es' : List Event} {e : Event} {r : α}

theorem Next.run (next : Next a e b) (run : Run b es r) : Run a (e :: es) r := by
  cases next with
  | lookup => exact .lookup run
  | call => exact .call run
  | wait => exact .wait run
  | time => exact .time run
  | push => exact .push run

/-- A run of what is left completes a run. -/
theorem Leads.run (leads : Leads a es b) (run : Run b es' r) : Run a (es ++ es') r := by
  induction leads generalizing es' with
  | nil => exact run
  | snoc _ next ih =>
    rw [List.append_assoc]
    exact ih (next.run run)

theorem Leads.run_of_done (leads : Leads a es (.done r)) : Run a es r := by
  simpa using leads.run (.done r)

end Lookout.Activity
