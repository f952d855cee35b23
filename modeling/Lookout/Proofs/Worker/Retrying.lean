import Lookout.Proofs.Simulation.Clock
import Lookout.Proofs.Worker.Oracle
import Mathlib.Algebra.BigOperators.Group.Finset.Basic
import Mathlib.Algebra.BigOperators.Intervals
import Mathlib.Data.ENat.Lattice
import Mathlib.Tactic.Ring

/-!
# How long a failing probe is tried

A probe is called until it passes or the calls of the policy are used up, with one wait between two calls. How many
calls there are, how long they take and what comes out is settled by how the probe would answer call after call:
`Trials` fix this beforehand, and a `Series` says what is then made of it. It comes out in three ways that agree: as
the events of an activity, on the clock of a world, and as a loop with a counter of 32 bits, which never wraps.
-/

namespace Lookout
set_option autoImplicit false
open Activity Simulation

/-- How a probe answers, call after call. The first call is number zero. -/
structure Trials where
  /-- Why the call of this number fails, if it does. -/
  outcome : Nat → Option String
  /-- How long it takes. -/
  takes : Nat → Nat

namespace Trials

/-- How many calls it takes until one passes; infinite if none ever does. -/
noncomputable def toPass (s : Trials) : ℕ∞ :=
  ⨅ k ∈ {k : Nat | s.outcome k = none}, ((k + 1 : Nat) : ℕ∞)

/-- The trials after the first one. -/
def tail (s : Trials) : Trials where
  outcome k := s.outcome (k + 1)
  takes k := s.takes (k + 1)

/-- Whatever the test and the target are, the probe answers in this way. -/
def oracle (s : Trials) : Oracle where
  lookup _ := none
  outcome _ _ number := s.outcome (number - 1)

/-- How long events take when `made` calls have been made before. -/
def elapsed (s : Trials) : (made : Nat) → List Event → Nat
  | _, [] => 0
  | made, .call _ _ :: es => s.takes made + s.elapsed (made + 1) es
  | made, .wait duration :: es => duration + s.elapsed made es
  | made, _ :: es => s.elapsed made es

/-- A series of calls, of which there may be at most `limit`, with a wait between two of them: how many there are,
how much time is spent, and why the series fails, if it does. -/
structure Series (s : Trials) (limit delay calls spent : Nat) (failure : Option String) : Prop where
  calls_eq : (calls : ℕ∞) = min s.toPass limit
  spent_eq : spent = ∑ k ∈ Finset.range calls, s.takes k + (calls - 1) * delay
  passed_iff : failure = none ↔ ∃ k < limit, s.outcome k = none
  last_error : failure ≠ none → failure = s.outcome (limit - 1)

/-- The trials begin with these failures and then this outcome. -/
structure Begin (s : Trials) (failures : List String) (last? : Option String) : Prop where
  failed : ∀ k f, failures[k]? = some f → s.outcome k = some f
  last : s.outcome failures.length = last?

variable {s : Trials} {limit delay : Nat} {failures : List String} {last? : Option String}

/-- A call that passes is not one of the first ones. -/
theorem Begin.le_of_passes (h : s.Begin failures last?) {k : Nat} (passes : s.outcome k = none) :
    failures.length ≤ k := by
  by_contra early
  have failed := h.failed k _ (List.getElem?_eq_getElem (Nat.lt_of_not_le early))
  rw [passes] at failed
  cases failed

theorem Begin.cons {f : String} (first : s.outcome 0 = some f) (rest : s.tail.Begin failures last?) :
    s.Begin (f :: failures) last? where
  failed := by
    intro k g listed
    cases k with
    | zero => rw [first, ← listed, List.getElem?_cons_zero]
    | succ k => exact rest.failed k g (by simpa using listed)
  last := rest.last

/-- Calls that end with one that passes, or with the last one there may be, are a series. -/
theorem Begin.series (h : s.Begin failures last?) (within : failures.length < limit)
    (spent : last?.isSome = true → failures.length + 1 = limit) :
    s.Series limit delay (failures.length + 1)
      (∑ k ∈ Finset.range (failures.length + 1), s.takes k + failures.length * delay) last? := by
  constructor
  · apply le_antisymm
    · apply le_min
      · refine le_iInf₂ fun k passes => ?_
        exact_mod_cast Nat.succ_le_succ (h.le_of_passes passes)
      · exact_mod_cast within
    · cases last? with
      | none => exact (min_le_left _ _).trans (iInf₂_le failures.length h.last)
      | some e =>
        rw [spent rfl]
        exact min_le_right _ _
  · rfl
  · constructor
    · intro passed
      exact ⟨failures.length, within, h.last.trans passed⟩
    · intro ⟨k, below, passes⟩
      by_contra failed
      have all := spent (Option.isSome_iff_ne_none.2 failed)
      have least := h.le_of_passes passes
      obtain rfl : k = failures.length := by omega
      exact failed (h.last.symm.trans passes)
  · intro failed
    rw [← spent (Option.isSome_iff_ne_none.2 failed), Nat.add_sub_cancel, h.last]

theorem elapsed_tail (s : Trials) (made : Nat) (es : List Event) :
    s.tail.elapsed made es = s.elapsed (made + 1) es := by
  induction es generalizing made with
  | nil => rfl
  | cons e es ih =>
    cases e <;> simp only [elapsed, ih]
    all_goals rfl

/-- The calls, and a wait after each that fails but for the last one. -/
theorem elapsed_attempted (s : Trials) (c : Call) (delay : Nat) (failures : List String) (last? : Option String) :
    s.elapsed 0 (Worker.attempted c delay failures last?) =
      ∑ k ∈ Finset.range (failures.length + 1), s.takes k + failures.length * delay := by
  induction failures generalizing s with
  | nil => simp [Worker.attempted, elapsed]
  | cons f failures ih =>
    rw [Worker.attempted_cons, elapsed, elapsed, ← elapsed_tail, ih s.tail, List.length_cons,
      Finset.sum_range_succ' _ (failures.length + 1)]
    simp only [tail]
    ring

end Trials

namespace Simulation

/-- The prober after some calls. -/
def Prober.after (p : Prober) (c : Call) : Nat → Prober
  | 0 => p
  | made + 1 => (p.answer c).2.2.after c made

/-- How a prober answers the same call again and again. -/
def Prober.trials (p : Prober) (c : Call) : Trials where
  outcome k := ((p.after c k).answer c).1
  takes k := ((p.after c k).answer c).2.1

/-- On the clock of a world the calls are those of the trials, and they and the waits take their time. -/
theorem World.complete_attempts (w : World) (c : Call) (delay more extra : Nat) :
    ∃ failures last? w', complete (2 * (more + 1) + extra) w (Worker.attempts c delay more) = (some last?, w') ∧
      (w.prober.trials c).Begin failures last? ∧ failures.length ≤ more ∧
      (last?.isSome = true → failures.length = more) ∧
      w'.now = w.now + (w.prober.trials c).elapsed 0 (Worker.attempted c delay failures last?) ∧
      w'.calls = List.replicate (failures.length + 1) c ++ w.calls := by
  -- a call that is the last one, because it passes or because there may be no other
  have last : ∀ (w : World) (fuel : Nat) (next : Option String → Activity (Option String)),
      next (w.prober.answer c).1 = .done (w.prober.answer c).1 → ∃ w',
        complete (fuel + 2) w (.call c next) = (some (w.prober.answer c).1, w') ∧
        w'.now = w.now + (w.prober.trials c).elapsed 0 (Worker.attempted c delay [] (w.prober.answer c).1) ∧
        w'.calls = c :: w.calls := by
    intro w fuel next ends
    obtain ⟨w', goes, now, -, calls⟩ := complete_call (fuel + 1) w c next
    exact ⟨w', by rw [goes, ends]; rfl, now, calls⟩
  induction more generalizing w with
  | zero =>
    obtain ⟨w', goes, now, calls⟩ := last w extra _ rfl
    rw [show 2 * (0 + 1) + extra = extra + 2 by omega, Worker.attempts, callProbe]
    exact ⟨[], _, w', goes, ⟨by simp, rfl⟩, Nat.le_refl 0, fun _ => rfl, now, calls⟩
  | succ more ih =>
    obtain ⟨next, goesOn, passes, fails⟩ : ∃ next, Worker.attempts c delay (more + 1) = .call c next ∧
        next none = .done none ∧ ∀ f, next (some f) = .wait delay fun _ => Worker.attempts c delay more :=
      ⟨_, rfl, rfl, fun _ => rfl⟩
    rw [show 2 * (more + 1 + 1) + extra = (2 * (more + 1) + extra) + 2 by omega, goesOn]
    cases answer : (w.prober.answer c).1 with
    | none =>
      obtain ⟨w', goes, now, calls⟩ := last w (2 * (more + 1) + extra) next (by rw [answer, passes])
      rw [answer] at goes now
      exact ⟨[], none, w', goes, ⟨by simp, answer⟩, Nat.zero_le _, by simp, now, calls⟩
    | some f =>
      obtain ⟨w₁, goes₁, now₁, prober₁, calls₁⟩ := complete_call (2 * (more + 1) + extra + 1) w c next
      rw [answer, fails] at goes₁
      obtain ⟨w₂, goes₂, passed⟩ := complete_wait (2 * (more + 1) + extra) w₁ delay
        fun _ => Worker.attempts c delay more
      obtain ⟨failures, last?, w', goes, begun, short, all, now, calls⟩ := ih w₂
      have later : w₂.prober.trials c = (w.prober.trials c).tail := by
        rw [passed.prober, prober₁]
        rfl
      rw [later] at begun now
      refine ⟨f :: failures, last?, w', (goes₁.trans goes₂).trans goes, .cons answer begun, ?_, ?_, ?_, ?_⟩
      · simpa using short
      · simpa using all
      · rw [now, passed.now, now₁, Worker.attempted_cons, Trials.elapsed, Trials.elapsed, ← Trials.elapsed_tail,
          Nat.add_assoc, Nat.add_assoc]
        rfl
      · rw [calls, passed.calls, calls₁, List.length_cons, @List.replicate_succ' (failures.length + 1),
          List.append_assoc]
        rfl

end Simulation

namespace Worker

/-- Where a loop stands that counts its calls with 32 bits. -/
inductive Counting where
  /-- The next call is to be made. -/
  | ready (counter : UInt32)
  /-- A call has failed, and there may be another one after a wait. -/
  | failed (counter : UInt32)
  | ended (counter : UInt32) (failure : Option String)

namespace Counting

def counter : Counting → UInt32
  | .ready n | .failed n | .ended n _ => n

/-- A step of the loop. Before it looks at the answer it adds one to the counter, which wraps. -/
inductive Step (p : RetryPolicy) (c : Call) : Counting → Event → Counting → Prop
  | passes (n : UInt32) : Step p c (.ready n) (.call c none) (.ended (n + 1) none)
  | fails (n : UInt32) (e : String) : (n + 1).toNat < p.maxAttempts →
      Step p c (.ready n) (.call c (some e)) (.failed (n + 1))
  | last (n : UInt32) (e : String) : p.maxAttempts ≤ (n + 1).toNat →
      Step p c (.ready n) (.call c (some e)) (.ended (n + 1) (some e))
  | waits (n : UInt32) : Step p c (.failed n) (.wait p.delay) (.ready n)

/-- What has happened when the loop stands somewhere. -/
inductive Reached (p : RetryPolicy) (c : Call) : List Event → Counting → Prop
  | start : Reached p c [] (.ready 0)
  | step {es : List Event} {e : Event} {s s' : Counting} : Reached p c es s → Step p c s e s' →
      Reached p c (es ++ [e]) s'

/-- What has happened before, by where the loop stands. -/
inductive Account (p : RetryPolicy) (c : Call) : List Event → Counting → Prop
  | ready (failures : List String) (n : UInt32) : n.toNat = failures.length → failures.length < p.maxAttempts →
      Account p c (failures.flatMap fun e => [.call c (some e), .wait p.delay]) (.ready n)
  | failed (failures : List String) (f : String) (n : UInt32) : n.toNat = failures.length + 1 →
      failures.length + 1 < p.maxAttempts → Account p c (attempted c p.delay failures (some f)) (.failed n)
  | ended (failures : List String) (last? : Option String) (n : UInt32) : n.toNat = failures.length + 1 →
      failures.length < p.maxAttempts → (last?.isSome = true → failures.length + 1 = p.maxAttempts) →
      Account p c (attempted c p.delay failures last?) (.ended n last?)

variable {p : RetryPolicy} {c : Call} {es : List Event} {s s' : Counting}

/-- A counter below the limit can be increased. -/
theorem toNat_succ (p : RetryPolicy) {n : UInt32} (below : n.toNat < p.maxAttempts) : (n + 1).toNat = n.toNat + 1 := by
  have fits : p.maxAttempts < 4294967296 := p.maxAttempts_lt
  rw [UInt32.toNat_add, UInt32.toNat_one]
  omega

theorem Account.step {e : Event} (h : Account p c es s) (step : Step p c s e s') : Account p c (es ++ [e]) s' := by
  cases step with
  | passes n =>
    cases h with
    | ready failures _ counted below =>
      exact .ended failures none _ (by rw [toNat_succ p (by omega), counted]) below (by simp)
  | fails n f more =>
    cases h with
    | ready failures _ counted below =>
      rw [toNat_succ p (by omega)] at more
      exact .failed failures f _ (by rw [toNat_succ p (by omega), counted]) (by omega)
  | last n f spent =>
    cases h with
    | ready failures _ counted below =>
      rw [toNat_succ p (by omega)] at spent
      exact .ended failures (some f) _ (by rw [toNat_succ p (by omega), counted]) below (fun _ => by omega)
  | waits n =>
    cases h with
    | failed failures f _ counted more =>
      have longer := Account.ready (c := c) (failures ++ [f]) n (by simpa using counted) (by simpa using more)
      simpa [attempted] using longer

theorem Reached.account (h : Reached p c es s) : Account p c es s := by
  induction h with
  | start => exact .ready [] 0 rfl p.maxAttempts_pos
  | step _ step ih => exact ih.step step

/-- Failures below the limit are gone through one after the other. -/
theorem reached_ready (failures : List String) (below : failures.length < p.maxAttempts) :
    ∃ n : UInt32, n.toNat = failures.length ∧
      Reached p c (failures.flatMap fun e => [.call c (some e), .wait p.delay]) (.ready n) := by
  induction failures using List.reverseRecOn with
  | nil => exact ⟨0, rfl, .start⟩
  | append_singleton failures f ih =>
    rw [List.length_append, List.length_singleton] at below
    obtain ⟨n, counted, reached⟩ := ih (by omega)
    have next : (n + 1).toNat = failures.length + 1 := by rw [toNat_succ p (by omega), counted]
    have both := (reached.step (.fails n f (by omega))).step (.waits (n + 1))
    exact ⟨n + 1, by simpa using next, by simpa using both⟩

/-- The loop ends as the attempts do. -/
theorem reached_ended_iff {last? : Option String} :
    (∃ n, Reached p c es (.ended n last?)) ↔ Run (attempts c p.delay (p.maxAttempts - 1)) es last? := by
  have positive := p.maxAttempts_pos
  rw [attempts_run_iff]
  constructor
  · intro ⟨n, reached⟩
    cases reached.account with
    | ended failures _ _ counted below spent =>
      exact ⟨failures, rfl, by omega, fun failed => by have := spent failed; omega⟩
  · intro ⟨failures, shape, short, all⟩
    obtain ⟨n, counted, reached⟩ := reached_ready (p := p) (c := c) failures (by omega)
    rw [shape]
    cases last? with
    | none => exact ⟨n + 1, reached.step (.passes n)⟩
    | some f =>
      have spent := all rfl
      have full : p.maxAttempts ≤ (n + 1).toNat := by
        rw [toNat_succ p (by omega)]
        omega
      exact ⟨n + 1, reached.step (.last n f full)⟩

theorem Account.counter_eq (h : Account p c es s) :
    s.counter.toNat = es.countP (Event.isCall c.test c.target) ∧ s.counter.toNat ≤ p.maxAttempts := by
  have calls : ∀ failures : List String, (failures.flatMap fun e => [Event.call c (some e), .wait p.delay]).countP
      (Event.isCall c.test c.target) = failures.length := by
    intro failures
    induction failures with
    | nil => rfl
    | cons f failures ih => simp [Event.isCall, ih]
  have attempted_calls : ∀ (failures : List String) (last? : Option String),
      (attempted c p.delay failures last?).countP (Event.isCall c.test c.target) = failures.length + 1 := by
    intro failures last?
    rw [attempted, List.countP_append, calls]
    simp [Event.isCall]
  cases h with
  | ready failures n counted below =>
    rw [calls, ← counted]
    exact ⟨rfl, by change n.toNat ≤ _; omega⟩
  | failed failures f n counted more =>
    rw [attempted_calls, ← counted]
    exact ⟨rfl, by change n.toNat ≤ _; omega⟩
  | ended failures last? n counted below spent =>
    rw [attempted_calls, ← counted]
    exact ⟨rfl, by change n.toNat ≤ _; omega⟩

end Counting

/-- The most calls that a policy can ask for. -/
def patient : RetryPolicy := { count := 4294967295, delay := 250 }

end Worker

end Lookout
