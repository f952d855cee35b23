import Lookout.Worker
import Lookout.Proofs.Activity.Run

/-!
# What running a test does

A test whose probe is not registered does nothing, and one whose target cannot be resolved is one message.
In all other cases the targets are visited one after the other: the probe is called until it passes or the
attempts are used up, and then one message is pushed. `Executed` says so in terms of events, and
`execute_run_iff` that these are the runs of `Worker.execute`, whatever is answered.
-/

namespace Lookout
set_option autoImplicit false
open Activity

/-- How the attempts against one target went, of which there are at most `limit`. -/
structure Visit (limit : Nat) where
  target : String
  /-- Why all attempts before the last one failed. -/
  failures : List String
  /-- Why the last attempt failed, if it did. -/
  last? : Option String
  now : Int64
  accepted : Bool
  within : failures.length < limit
  /-- The last attempt may fail only if there is no other left. -/
  spent : last?.isSome = true → failures.length + 1 = limit

/-- The message of a test that went this way against one target. -/
def Test.message (t : Test) (target : String) (failure : Option String) (now : Int64) : ResultMessage where
  input := t.sanitize
  kind := t.kind
  target := target
  result := if failure = none then .passed else .failed
  error? := failure
  time := now

namespace Worker

/-- The call of the probe of a test against one target. -/
def callOf (w : Worker) (t : Test) (target : String) : Call where
  probe := t.kind
  test := t
  target := target
  options := w.settings.execution

/-- The time is taken and the message pushed. -/
def reported (w : Worker) (m : ResultMessage) (accepted : Bool) : List Event :=
  [.time m.time, .push w.settings.resultsQueue m.wire accepted]

/-- The failing attempts with the waits between them, and the last attempt. -/
def attempted (c : Call) (delay : Nat) (failures : List String) (last? : Option String) : List Event :=
  failures.flatMap (fun e => [.call c (some e), .wait delay]) ++ [.call c last?]

theorem attempted_cons (c : Call) (delay : Nat) (failure : String) (failures : List String) (last? : Option String) :
    attempted c delay (failure :: failures) last? =
      .call c (some failure) :: .wait delay :: attempted c delay failures last? := by
  simp [attempted]

end Worker

namespace Visit

variable {limit : Nat}

def message (t : Test) (v : Visit limit) : ResultMessage :=
  t.message v.target v.last? v.now

/-- What happens during a visit. -/
def events (w : Worker) (t : Test) (v : Visit limit) : List Event :=
  Worker.attempted (w.callOf t v.target) w.settings.retry.delay v.failures v.last? ++
    w.reported (v.message t) v.accepted

end Visit

namespace Worker

variable {w : Worker} {t : Test} {es : List Event}

/-- How the targets of a test are found. -/
inductive Located (w : Worker) (t : Test) : List Event → Except ResolveError (List String) → Prop
  /-- Without a host nothing is looked up. -/
  | noHost {e : ResolveError} : hostOf t.target = .error e → Located w t [] (.error e)
  | looked {host : String} (found : Option (List Address)) : hostOf t.target = .ok host →
      Located w t [.lookup host found] (resolved w.families host found)

/-- The targets that are visited: those found, or the target itself. -/
inductive Visited (w : Worker) (t : Test) (p : Probe) : List Event → List String → Prop
  | asGiven : p.resolves = false → Visited w t p [] [t.target]
  | found {es : List Event} {targets : List String} : p.resolves = true → Located w t es (.ok targets) →
      Visited w t p es targets

/-- What happens when a test is run, and the messages. -/
inductive Executed (w : Worker) (t : Test) : List Event → List ResultMessage → Prop
  /-- No probe has the name: nothing happens. -/
  | unknown : w.registry.get? t.kind = none → Executed w t [] []
  /-- The target is not resolved: the failure is pushed, and no probe is called. -/
  | unresolved {p : Probe} {es : List Event} {e : ResolveError} (now : Int64) (accepted : Bool) :
      w.registry.get? t.kind = some p → p.resolves = true → Located w t es (.error e) →
      Executed w t (es ++ w.reported (t.message t.target (some e.message) now) accepted)
        [t.message t.target (some e.message) now]
  /-- The targets are visited in their order. -/
  | visited {p : Probe} {es : List Event} (visits : List (Visit w.settings.retry.maxAttempts)) :
      w.registry.get? t.kind = some p → Visited w t p es (visits.map Visit.target) →
      Executed w t (es ++ visits.flatMap (Visit.events w t)) (visits.map (Visit.message t))

theorem attempts_run_iff {c : Call} {delay more : Nat} {last? : Option String} :
    Run (attempts c delay more) es last? ↔ ∃ failures : List String, es = attempted c delay failures last? ∧
      failures.length ≤ more ∧ (last?.isSome = true → failures.length = more) := by
  induction more generalizing es with
  | zero =>
    unfold attempts callProbe
    rw [run_call_iff]
    constructor
    · rintro ⟨failure, rest, rfl, run⟩
      obtain ⟨rfl, rfl⟩ := run_done_iff.1 run
      exact ⟨[], rfl, Nat.le_refl 0, fun _ => rfl⟩
    · rintro ⟨failures, rfl, short, -⟩
      obtain rfl : failures = [] := List.length_eq_zero_iff.1 (Nat.le_zero.1 short)
      exact ⟨last?, [], rfl, .done last?⟩
  | succ more ih =>
    unfold attempts
    rw [run_call_iff]
    constructor
    · rintro ⟨failure, rest, rfl, run⟩
      cases failure with
      | none =>
        obtain ⟨rfl, rfl⟩ := run_done_iff.1 run
        exact ⟨[], rfl, Nat.zero_le _, by simp⟩
      | some e =>
        obtain ⟨later, rfl, next⟩ := run_wait_iff.1 run
        obtain ⟨failures, rfl, short, all⟩ := ih.1 next
        refine ⟨e :: failures, by simp [attempted], by simpa using short, ?_⟩
        intro failed
        rw [List.length_cons, all failed]
    · rintro ⟨failures, rfl, short, all⟩
      cases failures with
      | nil =>
        cases last? with
        | none => exact ⟨none, [], rfl, .done none⟩
        | some e => exact absurd (all rfl) (by simp)
      | cons e failures =>
        refine ⟨some e, .wait delay :: attempted c delay failures last?, by simp [attempted], ?_⟩
        refine run_wait_iff.2 ⟨_, rfl, ih.2 ⟨failures, rfl, by simpa using short, ?_⟩⟩
        intro failed
        simpa using all failed

/-- A report takes the time, pushes and ends. -/
theorem report_eq (w : Worker) (t : Test) (target : String) (failure : Option String) :
    w.report t target failure = .time fun now =>
      .push w.settings.resultsQueue (t.message target failure now).wire fun _ =>
        .done (t.message target failure now) := by
  cases failure <;> rfl

theorem report_run_iff {target : String} {failure : Option String} {m : ResultMessage} :
    Run (w.report t target failure) es m ↔
      ∃ now accepted, m = t.message target failure now ∧ es = w.reported m accepted := by
  rw [report_eq, run_time_iff]
  constructor
  · rintro ⟨now, rest, rfl, run⟩
    obtain ⟨accepted, later, rfl, pushed⟩ := run_push_iff.1 run
    obtain ⟨rfl, rfl⟩ := run_done_iff.1 pushed
    exact ⟨now, accepted, rfl, rfl⟩
  · rintro ⟨now, accepted, rfl, rfl⟩
    exact ⟨now, _, rfl, .push (.done _)⟩

/-- A visit calls the probe until it passes or no attempt is left, and reports the last attempt. -/
theorem probe_run_iff {target : String} {m : ResultMessage} :
    Run (w.probe t target) es m ↔ ∃ v : Visit w.settings.retry.maxAttempts,
      v.target = target ∧ es = v.events w t ∧ m = v.message t := by
  have positive := w.settings.retry.maxAttempts_pos
  unfold probe
  rw [run_bind_iff]
  constructor
  · rintro ⟨_, _, last?, rfl, attempt, report⟩
    obtain ⟨failures, rfl, short, all⟩ := attempts_run_iff.1 attempt
    obtain ⟨now, accepted, rfl, rfl⟩ := report_run_iff.1 report
    refine ⟨⟨target, failures, last?, now, accepted, by omega, ?_⟩, rfl, rfl, rfl⟩
    intro failed
    have := all failed
    omega
  · rintro ⟨v, rfl, rfl, rfl⟩
    refine ⟨_, _, v.last?, rfl, attempts_run_iff.2 ⟨v.failures, rfl, ?_, ?_⟩,
      report_run_iff.2 ⟨v.now, v.accepted, rfl, rfl⟩⟩
    · have := v.within
      omega
    · intro failed
      have := v.spent failed
      omega

/-- Targets are visited one after the other. -/
theorem probeAll_run_iff {targets : List String} {ms : List ResultMessage} :
    Run (w.probeAll t targets) es ms ↔ ∃ visits : List (Visit w.settings.retry.maxAttempts),
      visits.map Visit.target = targets ∧ es = visits.flatMap (Visit.events w t) ∧
        ms = visits.map (Visit.message t) := by
  induction targets generalizing es ms with
  | nil =>
    unfold probeAll
    rw [run_done_iff]
    constructor
    · rintro ⟨rfl, rfl⟩
      exact ⟨[], rfl, rfl, rfl⟩
    · rintro ⟨visits, noVisits, rfl, rfl⟩
      obtain rfl : visits = [] := List.map_eq_nil_iff.1 noVisits
      exact ⟨rfl, rfl⟩
  | cons target rest ih =>
    unfold probeAll
    rw [run_bind_iff]
    constructor
    · rintro ⟨_, _, m, rfl, first, run⟩
      obtain ⟨_, _, ms, rfl, others, run⟩ := run_bind_iff.1 run
      obtain ⟨rfl, rfl⟩ := run_done_iff.1 run
      obtain ⟨v, rfl, rfl, rfl⟩ := probe_run_iff.1 first
      obtain ⟨visits, rfl, rfl, rfl⟩ := ih.1 others
      exact ⟨v :: visits, rfl, by simp, rfl⟩
    · rintro ⟨visits, targets, rfl, rfl⟩
      cases visits with
      | nil => cases targets
      | cons v visits =>
        obtain ⟨rfl, rfl⟩ := List.cons.inj targets
        refine ⟨_, _, v.message t, List.flatMap_cons, probe_run_iff.2 ⟨v, rfl, rfl, rfl⟩, run_bind_iff.2 ?_⟩
        exact ⟨_, [], _, (List.append_nil _).symm, ih.2 ⟨visits, rfl, rfl, rfl⟩, .done _⟩

theorem resolve_run_iff {targets : Except ResolveError (List String)} :
    Run (w.resolve t) es targets ↔ Located w t es targets := by
  unfold resolve
  constructor
  · intro run
    cases host : hostOf t.target with
    | error e =>
      simp only [host] at run
      obtain ⟨rfl, rfl⟩ := run_done_iff.1 run
      exact .noHost host
    | ok name =>
      simp only [host] at run
      obtain ⟨_, _, found, rfl, look, result⟩ := run_bind_iff.1 run
      obtain ⟨rfl, rfl⟩ := run_done_iff.1 result
      obtain ⟨answer, _, rfl, given⟩ := run_lookup_iff.1 look
      obtain ⟨rfl, rfl⟩ := run_done_iff.1 given
      exact .looked found host
  · rintro (host | ⟨found, host⟩)
    · rw [host]
      exact .done _
    · rw [host]
      exact .lookup (.done _)

theorem execute_of_unknown (unknown : w.registry.get? t.kind = none) : w.execute t = .done [] := by
  unfold execute
  rw [unknown]

theorem execute_of_given {p : Probe} (known : w.registry.get? t.kind = some p) (given : p.resolves = false) :
    w.execute t = w.probeAll t [t.target] := by
  unfold execute
  rw [known]
  simp [given]

/-- A test whose target is resolved goes on by the answer. -/
theorem execute_run_iff_of_resolves {p : Probe} {ms : List ResultMessage}
    (known : w.registry.get? t.kind = some p) (resolves : p.resolves = true) :
    Run (w.execute t) es ms ↔
      (∃ first last e, es = first ++ last ∧ Located w t first (.error e) ∧
        Run (do return [← w.report t t.target (some e.message)]) last ms) ∨
      ∃ first last targets, es = first ++ last ∧ Located w t first (.ok targets) ∧
        Run (w.probeAll t targets) last ms := by
  unfold execute
  rw [known]
  simp only [resolves, if_true]
  rw [run_bind_iff]
  constructor
  · rintro ⟨first, last, targets, rfl, located, run⟩
    rw [resolve_run_iff] at located
    cases targets with
    | error e => exact .inl ⟨first, last, e, rfl, located, run⟩
    | ok targets => exact .inr ⟨first, last, targets, rfl, located, run⟩
  · rintro (⟨first, last, e, rfl, located, run⟩ | ⟨first, last, targets, rfl, located, run⟩)
    · exact ⟨first, last, .error e, rfl, resolve_run_iff.2 located, run⟩
    · exact ⟨first, last, .ok targets, rfl, resolve_run_iff.2 located, run⟩

/-- Every run is one of the three kinds. -/
theorem executed_of_run {ms : List ResultMessage} (run : Run (w.execute t) es ms) : Executed w t es ms := by
  cases known : w.registry.get? t.kind with
  | none =>
    rw [execute_of_unknown known] at run
    obtain ⟨rfl, rfl⟩ := run_done_iff.1 run
    exact .unknown known
  | some p =>
    cases resolves : p.resolves with
    | false =>
      rw [execute_of_given known resolves] at run
      obtain ⟨visits, targets, rfl, rfl⟩ := probeAll_run_iff.1 run
      show Executed w t ([] ++ visits.flatMap (Visit.events w t)) _
      exact .visited visits known (targets ▸ .asGiven resolves)
    | true =>
      rcases (execute_run_iff_of_resolves known resolves).1 run with
        ⟨first, last, e, rfl, located, rest⟩ | ⟨first, last, targets, rfl, located, rest⟩
      · obtain ⟨_, _, m, rfl, reported, result⟩ := run_bind_iff.1 rest
        obtain ⟨now, accepted, rfl, rfl⟩ := report_run_iff.1 reported
        obtain ⟨rfl, rfl⟩ := run_done_iff.1 result
        rw [List.append_nil]
        exact .unresolved now accepted known resolves located
      · obtain ⟨visits, rfl, rfl, rfl⟩ := probeAll_run_iff.1 rest
        exact .visited visits known (.found resolves located)

/-- Each of the three kinds is a run. -/
theorem Executed.run {ms : List ResultMessage} (h : Executed w t es ms) : Run (w.execute t) es ms := by
  cases h with
  | unknown known =>
    rw [execute_of_unknown known]
    exact .done []
  | unresolved now accepted known resolves located =>
    refine (execute_run_iff_of_resolves known resolves).2 (.inl ⟨_, _, _, rfl, located, run_bind_iff.2 ?_⟩)
    exact ⟨_, [], _, (List.append_nil _).symm, report_run_iff.2 ⟨now, accepted, rfl, rfl⟩, .done _⟩
  | visited visits known targets =>
    generalize same : visits.map Visit.target = given at targets
    cases targets with
    | asGiven given =>
      rw [execute_of_given known given]
      exact probeAll_run_iff.2 ⟨visits, same, rfl, rfl⟩
    | found resolves located =>
      refine (execute_run_iff_of_resolves known resolves).2 (.inr ⟨_, _, _, rfl, located, ?_⟩)
      exact probeAll_run_iff.2 ⟨visits, same, rfl, rfl⟩

theorem pushed_reported (m : ResultMessage) (accepted : Bool) :
    (w.reported m accepted).filterMap Event.pushed? = [(w.settings.resultsQueue, m.wire)] := rfl

theorem pushed_attempted (c : Call) (delay : Nat) (failures : List String) (last? : Option String) :
    (attempted c delay failures last?).filterMap Event.pushed? = [] := by
  have quiet : ∀ e ∈ attempted c delay failures last?, e.pushed? = none := by
    intro e mem
    simp only [attempted, List.mem_append, List.mem_flatMap, List.mem_cons, List.not_mem_nil, or_false] at mem
    rcases mem with ⟨failure, -, rfl | rfl⟩ | rfl <;> rfl
  exact List.filterMap_eq_nil_iff.2 quiet

theorem pushed_located {targets : Except ResolveError (List String)} (h : Located w t es targets) :
    es.filterMap Event.pushed? = [] := by
  cases h <;> rfl

/-- The messages are what is pushed, in their order. -/
theorem Executed.pushed {ms : List ResultMessage} (h : Executed w t es ms) :
    es.filterMap Event.pushed? = ms.map fun m => (w.settings.resultsQueue, m.wire) := by
  have visit : ∀ {limit : Nat} (v : Visit limit),
      (v.events w t).filterMap Event.pushed? = [(w.settings.resultsQueue, (v.message t).wire)] := by
    intro limit v
    rw [Visit.events, List.filterMap_append, pushed_attempted, pushed_reported, List.nil_append]
  cases h with
  | unknown => rfl
  | unresolved now accepted known resolves located =>
    rw [List.filterMap_append, pushed_located located, pushed_reported]
    rfl
  | visited visits known targets =>
    have quiet : ∀ {p : Probe} {es : List Event} {targets : List String}, Visited w t p es targets →
        es.filterMap Event.pushed? = [] := by
      rintro p es targets (given | ⟨-, located⟩)
      · rfl
      · exact pushed_located located
    rw [List.filterMap_append, quiet targets, List.nil_append, List.filterMap_flatMap]
    simp only [visit]
    rw [List.map_map, List.map_eq_flatMap]
    rfl

/-- The runs of a job are those of its test. -/
theorem process_run_iff {payload : Payload} {line : String} (text : payload.text? = some line)
    (job : JobLine.parse w.registry line = .ok (some t)) :
    Run (w.process payload) es () ↔ ∃ ms, Executed w t es ms := by
  unfold process
  simp only [text, job]
  rw [run_bind_iff]
  constructor
  · rintro ⟨first, last, ms, rfl, run, rest⟩
    obtain ⟨rfl, -⟩ := run_done_iff.1 rest
    rw [List.append_nil]
    exact ⟨ms, executed_of_run run⟩
  · rintro ⟨ms, executed⟩
    exact ⟨es, [], ms, (List.append_nil es).symm, executed.run, .done ()⟩

/-- **What running a test does**: in every environment it ends, and what can happen is exactly that nothing
happens, that one failed resolution is reported, or that the targets are visited in their order. -/
theorem execute_run_iff (w : Worker) (t : Test) :
    (∀ env : Environment, ∃ es ms, play env [] (w.execute t) = (es, ms) ∧ Executed w t es ms) ∧
      ∀ es ms, Run (w.execute t) es ms ↔ Executed w t es ms := by
  constructor
  · intro env
    exact ⟨_, _, rfl, executed_of_run (run_play env [] (w.execute t))⟩
  · intro es ms
    exact ⟨executed_of_run, Executed.run⟩

end Worker

end Lookout
