import Lookout.Activity

/-!
# Runs of activities

A run of an activity is what was asked for, with the answers given, and the result. An activity goes on by
every answer, so that its runs are those of all environments: whatever the answers depend on, there is one
run for them. The runs of two activities one after the other are a run of the first and a run of the second.
-/

namespace Lookout
set_option autoImplicit false

/-- An effect and its answer. -/
inductive Event where
  | lookup (host : String) (found : Option (List Address))
  | call (c : Call) (failure : Option String)
  | wait (duration : Nat)
  | time (now : Int64)
  | push (queue : String) (payload : Payload) (accepted : Bool)
deriving DecidableEq

/-- What an event pushes, and to which queue. -/
def Event.pushed? : Event → Option (String × Payload)
  | .push queue payload _ => some (queue, payload)
  | _ => none

namespace Activity

variable {α β : Type}

/-- What can happen, and with which result. -/
inductive Run : Activity α → List Event → α → Prop
  | done (r : α) : Run (.done r) [] r
  | lookup {host : String} {next : Option (List Address) → Activity α} {found : Option (List Address)}
      {es : List Event} {r : α} : Run (next found) es r → Run (.lookup host next) (.lookup host found :: es) r
  | call {c : Call} {next : Option String → Activity α} {failure : Option String} {es : List Event} {r : α} :
      Run (next failure) es r → Run (.call c next) (.call c failure :: es) r
  | wait {duration : Nat} {next : Unit → Activity α} {es : List Event} {r : α} :
      Run (next ()) es r → Run (.wait duration next) (.wait duration :: es) r
  | time {next : Int64 → Activity α} {now : Int64} {es : List Event} {r : α} :
      Run (next now) es r → Run (.time next) (.time now :: es) r
  | push {queue : String} {payload : Payload} {next : Bool → Activity α} {accepted : Bool} {es : List Event}
      {r : α} : Run (next accepted) es r → Run (.push queue payload next) (.push queue payload accepted :: es) r

variable {es : List Event} {r : α}

theorem run_done_iff {x : α} : Run (.done x) es r ↔ es = [] ∧ r = x := by
  constructor
  · intro run
    cases run
    exact ⟨rfl, rfl⟩
  · rintro ⟨rfl, rfl⟩
    exact .done r

theorem run_lookup_iff {host : String} {next : Option (List Address) → Activity α} :
    Run (.lookup host next) es r ↔ ∃ found rest, es = .lookup host found :: rest ∧ Run (next found) rest r := by
  constructor
  · intro run
    cases run with
    | lookup run => exact ⟨_, _, rfl, run⟩
  · rintro ⟨found, rest, rfl, run⟩
    exact .lookup run

theorem run_call_iff {c : Call} {next : Option String → Activity α} :
    Run (.call c next) es r ↔ ∃ failure rest, es = .call c failure :: rest ∧ Run (next failure) rest r := by
  constructor
  · intro run
    cases run with
    | call run => exact ⟨_, _, rfl, run⟩
  · rintro ⟨failure, rest, rfl, run⟩
    exact .call run

theorem run_wait_iff {duration : Nat} {next : Unit → Activity α} :
    Run (.wait duration next) es r ↔ ∃ rest, es = .wait duration :: rest ∧ Run (next ()) rest r := by
  constructor
  · intro run
    cases run with
    | wait run => exact ⟨_, rfl, run⟩
  · rintro ⟨rest, rfl, run⟩
    exact .wait run

theorem run_time_iff {next : Int64 → Activity α} :
    Run (.time next) es r ↔ ∃ now rest, es = .time now :: rest ∧ Run (next now) rest r := by
  constructor
  · intro run
    cases run with
    | time run => exact ⟨_, _, rfl, run⟩
  · rintro ⟨now, rest, rfl, run⟩
    exact .time run

theorem run_push_iff {queue : String} {payload : Payload} {next : Bool → Activity α} :
    Run (.push queue payload next) es r ↔
      ∃ accepted rest, es = .push queue payload accepted :: rest ∧ Run (next accepted) rest r := by
  constructor
  · intro run
    cases run with
    | push run => exact ⟨_, _, rfl, run⟩
  · rintro ⟨accepted, rest, rfl, run⟩
    exact .push run

theorem Run.andThen {a : Activity α} {f : α → Activity β} {x : α} {first rest : List Event} {y : β}
    (run : Run a first x) (later : Run (f x) rest y) : Run (a.andThen f) (first ++ rest) y := by
  induction run with
  | done x => exact later
  | lookup _ ih => exact .lookup (ih later)
  | call _ ih => exact .call (ih later)
  | wait _ ih => exact .wait (ih later)
  | time _ ih => exact .time (ih later)
  | push _ ih => exact .push (ih later)

/-- A run of one activity after another is a run of each. -/
theorem run_bind_iff {a : Activity α} {f : α → Activity β} {y : β} :
    Run (a >>= f) es y ↔ ∃ first rest x, es = first ++ rest ∧ Run a first x ∧ Run (f x) rest y := by
  constructor
  · intro run
    change Run (a.andThen f) es y at run
    induction a generalizing es with
    | done x => exact ⟨[], es, x, rfl, .done x, run⟩
    | lookup host next ih =>
      obtain ⟨found, es, rfl, inner⟩ := run_lookup_iff.1 run
      obtain ⟨first, rest, x, rfl, here, later⟩ := ih found inner
      exact ⟨.lookup host found :: first, rest, x, rfl, .lookup here, later⟩
    | call c next ih =>
      obtain ⟨failure, es, rfl, inner⟩ := run_call_iff.1 run
      obtain ⟨first, rest, x, rfl, here, later⟩ := ih failure inner
      exact ⟨.call c failure :: first, rest, x, rfl, .call here, later⟩
    | wait duration next ih =>
      obtain ⟨es, rfl, inner⟩ := run_wait_iff.1 run
      obtain ⟨first, rest, x, rfl, here, later⟩ := ih () inner
      exact ⟨.wait duration :: first, rest, x, rfl, .wait here, later⟩
    | time next ih =>
      obtain ⟨now, es, rfl, inner⟩ := run_time_iff.1 run
      obtain ⟨first, rest, x, rfl, here, later⟩ := ih now inner
      exact ⟨.time now :: first, rest, x, rfl, .time here, later⟩
    | push queue payload next ih =>
      obtain ⟨accepted, es, rfl, inner⟩ := run_push_iff.1 run
      obtain ⟨first, rest, x, rfl, here, later⟩ := ih accepted inner
      exact ⟨.push queue payload accepted :: first, rest, x, rfl, .push here, later⟩
  · rintro ⟨first, rest, x, rfl, run, later⟩
    exact run.andThen later

/-- Who answers an activity. An answer may depend on all that has happened before. -/
structure Environment where
  lookup : List Event → String → Option (List Address)
  call : List Event → Call → Option String
  time : List Event → Int64
  push : List Event → String → Payload → Bool

/-- What happens after `past` in an environment, and the result. -/
def play (env : Environment) (past : List Event) : Activity α → List Event × α
  | .done r => ([], r)
  | .lookup host next =>
    let found := env.lookup past host
    let (es, r) := play env (past ++ [.lookup host found]) (next found)
    (.lookup host found :: es, r)
  | .call c next =>
    let failure := env.call past c
    let (es, r) := play env (past ++ [.call c failure]) (next failure)
    (.call c failure :: es, r)
  | .wait duration next =>
    let (es, r) := play env (past ++ [.wait duration]) (next ())
    (.wait duration :: es, r)
  | .time next =>
    let now := env.time past
    let (es, r) := play env (past ++ [.time now]) (next now)
    (.time now :: es, r)
  | .push queue payload next =>
    let accepted := env.push past queue payload
    let (es, r) := play env (past ++ [.push queue payload accepted]) (next accepted)
    (.push queue payload accepted :: es, r)

/-- In every environment an activity runs to its end. -/
theorem run_play (env : Environment) (past : List Event) (a : Activity α) :
    Run a (play env past a).1 (play env past a).2 := by
  induction a generalizing past with
  | done r => exact .done r
  | lookup host next ih => exact .lookup (ih _ _)
  | call c next ih => exact .call (ih _ _)
  | wait duration next ih => exact .wait (ih _ _)
  | time next ih => exact .time (ih _ _)
  | push queue payload next ih => exact .push (ih _ _)

/-- Whatever an activity is, it can run to its end. -/
theorem exists_run (a : Activity α) : ∃ es r, Run a es r :=
  ⟨_, _, run_play ⟨fun _ _ => none, fun _ _ => none, fun _ => 0, fun _ _ _ => false⟩ [] a⟩

end Activity

end Lookout
