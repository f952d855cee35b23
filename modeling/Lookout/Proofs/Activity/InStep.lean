import Lookout.Proofs.Activity.Run
import Mathlib.Data.List.Forall2

/-!
# Activities that keep in step

Two activities keep in step if they ask for the same, and go on in step whenever lookups and calls are answered
alike. What time it is and whether a push is accepted need not be answered alike: an activity that keeps in step with
itself does not depend on it. Payloads may differ within a relation, and so may results. Two runs of activities in
step are the same event by event as long as lookups and calls have the same answers, and so they are to the end.
-/

namespace Lookout
set_option autoImplicit false

/-- Events that are the same but for times, for payloads within `P`, and for whether pushes are accepted. -/
inductive Event.Matches (P : Payload → Payload → Prop) : Event → Event → Prop
  | lookup (host : String) (found : Option (List Address)) : Matches P (.lookup host found) (.lookup host found)
  | call (c : Call) (failure : Option String) : Matches P (.call c failure) (.call c failure)
  | wait (duration : Nat) : Matches P (.wait duration) (.wait duration)
  | time (now now' : Int64) : Matches P (.time now) (.time now')
  | push (queue : String) {p p' : Payload} (accepted accepted' : Bool) : P p p' →
      Matches P (.push queue p accepted) (.push queue p' accepted')

/-- How an event answers a lookup. -/
def Event.found? : Event → Option (Option (List Address))
  | .lookup _ found => some found
  | _ => none

/-- How an event answers a call. -/
def Event.failure? : Event → Option (Option String)
  | .call _ failure => some failure
  | _ => none

namespace Activity

/-- Two lists have the same at every place that both have. -/
def Agree {α : Type} (l l' : List α) : Prop :=
  ∀ (n : Nat) (x y : α), l[n]? = some x → l'[n]? = some y → x = y

theorem agree_refl {α : Type} (l : List α) : Agree l l :=
  fun _ _ _ here there => Option.some.inj (here.symm.trans there)

theorem agree_cons_iff {α : Type} {x y : α} {l l' : List α} :
    Agree (x :: l) (y :: l') ↔ x = y ∧ Agree l l' := by
  constructor
  · intro agree
    exact ⟨agree 0 x y rfl rfl, fun n u v here there => agree (n + 1) u v here there⟩
  · intro ⟨first, rest⟩ n u v here there
    cases n with
    | zero =>
      obtain rfl := Option.some.inj here
      obtain rfl := Option.some.inj there
      exact first
    | succ n => exact rest n u v here there

variable {α α' β β' : Type} {P : Payload → Payload → Prop} {R : α → α' → Prop} {S : β → β' → Prop}

/-- Activities that ask for the same, whatever the time is and whether or not pushes are accepted. -/
inductive InStep (P : Payload → Payload → Prop) (R : α → α' → Prop) : Activity α → Activity α' → Prop
  | done {x : α} {y : α'} : R x y → InStep P R (.done x) (.done y)
  | lookup {host : String} {next : Option (List Address) → Activity α}
      {next' : Option (List Address) → Activity α'} : (∀ found, InStep P R (next found) (next' found)) →
      InStep P R (.lookup host next) (.lookup host next')
  | call {c : Call} {next : Option String → Activity α} {next' : Option String → Activity α'} :
      (∀ failure, InStep P R (next failure) (next' failure)) → InStep P R (.call c next) (.call c next')
  | wait {duration : Nat} {next : Unit → Activity α} {next' : Unit → Activity α'} :
      InStep P R (next ()) (next' ()) → InStep P R (.wait duration next) (.wait duration next')
  | time {next : Int64 → Activity α} {next' : Int64 → Activity α'} :
      (∀ now now', InStep P R (next now) (next' now')) → InStep P R (.time next) (.time next')
  | push {queue : String} {p p' : Payload} {next : Bool → Activity α} {next' : Bool → Activity α'} : P p p' →
      (∀ accepted accepted', InStep P R (next accepted) (next' accepted')) →
      InStep P R (.push queue p next) (.push queue p' next')

theorem InStep.bind {a : Activity α} {a' : Activity α'} {f : α → Activity β} {f' : α' → Activity β'}
    (first : InStep P R a a') (later : ∀ x y, R x y → InStep P S (f x) (f' y)) :
    InStep P S (a >>= f) (a' >>= f') := by
  change InStep P S (a.andThen f) (a'.andThen f')
  induction first with
  | done same => exact later _ _ same
  | lookup _ ih => exact .lookup ih
  | call _ ih => exact .call ih
  | wait _ ih => exact .wait ih
  | time _ ih => exact .time ih
  | push payload _ ih => exact .push payload ih

/-- Runs of activities in step match each other to the end. -/
theorem InStep.runs_match {a : Activity α} {a' : Activity α'} {es es' : List Event} {x : α} {y : α'}
    (inStep : InStep P R a a') (run : Run a es x) (run' : Run a' es' y)
    (lookups : Agree (es.filterMap Event.found?) (es'.filterMap Event.found?))
    (calls : Agree (es.filterMap Event.failure?) (es'.filterMap Event.failure?)) :
    List.Forall₂ (Event.Matches P) es es' ∧ R x y := by
  induction inStep generalizing es es' with
  | done same =>
    obtain ⟨rfl, rfl⟩ := run_done_iff.1 run
    obtain ⟨rfl, rfl⟩ := run_done_iff.1 run'
    exact ⟨.nil, same⟩
  | lookup _ ih =>
    obtain ⟨found, es, rfl, inner⟩ := run_lookup_iff.1 run
    obtain ⟨found', es', rfl, inner'⟩ := run_lookup_iff.1 run'
    obtain ⟨rfl, later⟩ := agree_cons_iff.1 lookups
    obtain ⟨rest, results⟩ := ih found inner inner' later calls
    exact ⟨.cons (.lookup _ found) rest, results⟩
  | call _ ih =>
    obtain ⟨failure, es, rfl, inner⟩ := run_call_iff.1 run
    obtain ⟨failure', es', rfl, inner'⟩ := run_call_iff.1 run'
    obtain ⟨rfl, later⟩ := agree_cons_iff.1 calls
    obtain ⟨rest, results⟩ := ih failure inner inner' lookups later
    exact ⟨.cons (.call _ failure) rest, results⟩
  | wait _ ih =>
    obtain ⟨es, rfl, inner⟩ := run_wait_iff.1 run
    obtain ⟨es', rfl, inner'⟩ := run_wait_iff.1 run'
    obtain ⟨rest, results⟩ := ih inner inner' lookups calls
    exact ⟨.cons (.wait _) rest, results⟩
  | time _ ih =>
    obtain ⟨now, es, rfl, inner⟩ := run_time_iff.1 run
    obtain ⟨now', es', rfl, inner'⟩ := run_time_iff.1 run'
    obtain ⟨rest, results⟩ := ih now now' inner inner' lookups calls
    exact ⟨.cons (.time now now') rest, results⟩
  | push payload _ ih =>
    obtain ⟨accepted, es, rfl, inner⟩ := run_push_iff.1 run
    obtain ⟨accepted', es', rfl, inner'⟩ := run_push_iff.1 run'
    obtain ⟨rest, results⟩ := ih accepted accepted' inner inner' lookups calls
    exact ⟨.cons (.push _ accepted accepted' payload) rest, results⟩

end Activity

end Lookout
