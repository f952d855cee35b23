import Lookout.Program
import Lookout.Proofs.Enqueue.Reading
import Lookout.Proofs.Worker.Jobs

/-!
# What is enqueued

The tests that were read are pushed in their order, each as the line that it was read from, up to the first push that
is refused. A worker that knows the same probes makes the same test of that line, so that it drops none of them.
-/

namespace Lookout
set_option autoImplicit false
open Activity Queue

/-- What events leave in the queues. -/
def Event.applyAll (es : List Event) (s : Store) : Store :=
  es.foldl (fun s e => e.applyTo s) s

theorem held_applyAll (es : List Event) (s : Store) (queue : String) :
    (Event.applyAll es s).held queue = s.held queue ++ es.filterMap fun e => (Deed.did e).posted? queue := by
  induction es generalizing s with
  | nil => simp [Event.applyAll]
  | cons e es ih =>
    have first := held_applyTo e s queue
    rw [Event.applyAll, List.foldl_cons, ← Event.applyAll, ih, first, List.append_assoc, List.filterMap_cons]
    cases (Deed.did e).posted? queue <;> rfl

namespace Enqueue

/-- The line that a test was read from, as it is pushed. -/
def payloadOf (t : Test) : Payload :=
  Payload.ofText t.input

/-- A test is pushed. -/
def pushed (queue : String) (accepted : Bool) (t : Test) : Event :=
  .push queue (payloadOf t) accepted

/-- How the pushing of tests ends when `n` of them have been accepted: with all of them, or with the next one
refused. -/
inductive Ended (queue : String) (ts : List Test) : Nat → List Event → Option Test → Prop where
  | all : Ended queue ts ts.length (ts.map (pushed queue true)) none
  | refused {n : Nat} {t : Test} (next : ts[n]? = some t) :
      Ended queue ts n ((ts.take n).map (pushed queue true) ++ [pushed queue false t]) (some t)

variable {queue : String} {ts : List Test} {t : Test} {n : Nat} {es : List Event} {r : Option Test}

/-- One test more is accepted in front of others. -/
theorem Ended.cons (ended : Ended queue ts n es r) : Ended queue (t :: ts) (n + 1) (pushed queue true t :: es) r := by
  cases ended with
  | all => exact .all
  | refused next => exact .refused (by simpa using next)

theorem pushJobs_run_iff : Run (pushJobs queue ts) es r ↔ ∃ n, Ended queue ts n es r := by
  induction ts generalizing es with
  | nil =>
    rw [pushJobs, run_done_iff]
    constructor
    · rintro ⟨rfl, rfl⟩
      exact ⟨0, .all⟩
    · rintro ⟨n, ended⟩
      cases ended with
      | all => exact ⟨rfl, rfl⟩
      | refused next => cases next
  | cons t ts ih =>
    rw [pushJobs, run_push_iff]
    constructor
    · rintro ⟨accepted, rest, rfl, later⟩
      cases accepted with
      | true =>
        obtain ⟨n, ended⟩ := ih.1 later
        exact ⟨n + 1, ended.cons⟩
      | false =>
        obtain ⟨rfl, rfl⟩ := run_done_iff.1 later
        exact ⟨0, .refused rfl⟩
    · rintro ⟨n, ended⟩
      cases ended with
      | all => exact ⟨true, _, rfl, ih.2 ⟨_, .all⟩⟩
      | refused next =>
        cases n with
        | zero =>
          obtain rfl := Option.some.inj next
          exact ⟨false, [], rfl, .done _⟩
        | succ n => exact ⟨true, _, rfl, ih.2 ⟨n, .refused (by simpa using next)⟩⟩

/-- A queue has gained payloads at its end, and no other queue has changed. -/
structure Gained (queue : String) (payloads : List Payload) (s s' : Store) : Prop where
  own : s'.held queue = s.held queue ++ payloads
  others : ∀ key, key ≠ queue → s'.held key = s.held key

/-- What was accepted is in the queue, and nothing else is new. -/
theorem Ended.gained (ended : Ended queue ts n es r) (s : Store) :
    Gained queue ((ts.take n).map payloadOf) s (Event.applyAll es s) := by
  have posted : ∀ key, es.filterMap (fun e => (Deed.did e).posted? key) =
      if queue = key then (ts.take n).map payloadOf else [] := by
    intro key
    have accepted : ∀ us : List Test, (us.map (pushed queue true)).filterMap (fun e => (Deed.did e).posted? key) =
        if queue = key then us.map payloadOf else [] := by
      intro us
      by_cases same : queue = key
      · simp [List.filterMap_map, pushed, Deed.posted?, same, Function.comp_def]
      · simp [List.filterMap_map, pushed, Deed.posted?, same, Function.comp_def]
    cases ended with
    | all => rw [accepted, List.take_length]
    | refused next =>
      rw [List.filterMap_append, accepted]
      simp [pushed, Deed.posted?]
  constructor
  · rw [held_applyAll, posted, if_pos rfl]
  · intro key other
    rw [held_applyAll, posted, if_neg (Ne.symm other), List.append_nil]

theorem Ended.outcome_eq (ended : Ended queue ts n es r) :
    outcome ts r = match ts[n]? with
      | none => .ok ts.length
      | some t => .error (.refused t.sanitize) := by
  cases ended with
  | all => rw [List.getElem?_length]; rfl
  | refused next => rw [next]; rfl

/-- A worker makes the test again of what was pushed, and runs it. -/
theorem JobsIn.process {registry : Registry} {tree : Files.Tree} {files : List String} {w : Worker}
    (jobs : JobsIn registry tree files ts) (same : w.registry = registry) (mem : t ∈ ts) :
    w.job? (payloadOf t) = some t ∧ w.process (payloadOf t) = (do let _ ← w.execute t) ∧
      ¬ w.Barren (payloadOf t) := by
  obtain ⟨texts, -, read, known⟩ := jobs
  have text : (payloadOf t).text? = some t.input := Payload.text?_ofText _
  have again : JobLine.parse w.registry t.input = .ok (some t) := by
    have parsed : .ok (some t) ∈ ts.map fun t => (Except.ok (some t) : Except JobLineError (Option Test)) :=
      List.mem_map_of_mem mem
    rw [← read] at parsed
    obtain ⟨line, -, asks⟩ := List.mem_map.1 parsed
    exact same ▸ JobLine.parse_input asks
  refine ⟨Worker.job?_eq_some_iff.2 ⟨_, text, again⟩, by simp [Worker.process, text, again], ?_⟩
  intro barren
  cases barren with
  | notText noText => cases text.symm.trans noText
  | malformed line parsed =>
    obtain rfl := Option.some.inj (text.symm.trans line)
    cases again.symm.trans parsed
  | silent line silent =>
    obtain rfl := Option.some.inj (text.symm.trans line)
    cases again.symm.trans (JobLine.parse_of_silent silent)
  | unknown line parsed unknown =>
    obtain rfl := Option.some.inj (text.symm.trans line)
    obtain rfl : t = _ := by simpa using again.symm.trans parsed
    have known := known t mem
    rw [Registry.contains, ← same, unknown] at known
    cases known

/-- Where the jobs cannot be read, the program pushes nothing. -/
theorem carryOut_of_error {m : Machine} {c : Configuration} {server : CommandLine.ServerChoices} {files : List String}
    {e : EnqueueError} (failed : readJobs .bundled m.files files = .error e) :
    Program.carryOut m c (.enqueue server files) = Program.failed m (e.messages Program.refusal) := by
  have stopped : Program.enqueue m c files = .error (e.messages Program.refusal) := by
    unfold Program.enqueue
    rw [failed]
    rfl
  unfold Program.carryOut
  simp only [stopped]
  rfl

/-- **What is enqueued is what a worker runs.** The tests read are those of the lines that are neither blank nor
comments, in order and for registered probes; the first file or line with which something is wrong is the error
otherwise, and then nothing is pushed. Pushing ends with all tests accepted or with the first one refused, and just
those before it have come to the queue. A worker that knows the same probes reads the same tests there, drops none
of them and runs each. -/
theorem enqueued_as_read (registry : Registry) (tree : Files.Tree) (files : List String) (queue : String) :
    (∀ (ls : List (List Char × Bool)) (last : List Char), (∀ l ∈ ls, '\n' ∉ l.1) →
        (∀ l ∈ ls, l.2 = false → l.1.getLast? ≠ some '\r') → '\n' ∉ last →
        linesOf (String.ofList (writtenLines ls last)) =
          (ls.map Prod.fst ++ if last = [] then [] else [last]).map String.ofList) ∧
      (∀ ts, readJobs registry tree files = .ok ts ↔ JobsIn registry tree files ts) ∧
      (∀ e, readJobs registry tree files = .error e ↔ ∃ before file after ts, files = before ++ file :: after ∧
        JobsIn registry tree before ts ∧ BadFile registry tree file e) ∧
      (∀ m c server e, readJobs .bundled m.files files = .error e →
        Program.carryOut m c (.enqueue server files) = Program.failed m (e.messages Program.refusal) ∧
          (Program.carryOut m c (.enqueue server files)).queues = m.queues) ∧
      (∀ ts es r, Run (pushJobs queue ts) es r ↔ ∃ n, Ended queue ts n es r) ∧
      (∀ ts n es r s, Ended queue ts n es r → Gained queue ((ts.take n).map payloadOf) s (Event.applyAll es s) ∧
        outcome ts r = match ts[n]? with
          | none => .ok ts.length
          | some t => .error (.refused t.sanitize)) ∧
      ∀ ts (w : Worker), JobsIn registry tree files ts → w.registry = registry → ∀ t ∈ ts,
        w.job? (payloadOf t) = some t ∧ w.process (payloadOf t) = (do let _ ← w.execute t) ∧
          ¬ w.Barren (payloadOf t) := by
  refine ⟨fun ls last inside bare single => linesOf_writtenLines inside bare single, fun ts => readJobs_eq_ok_iff,
    fun e => readJobs_eq_error_iff, ?_, fun ts es r => pushJobs_run_iff,
    fun ts n es r s ended => ⟨ended.gained s, ended.outcome_eq⟩, fun ts w jobs same t mem => jobs.process same mem⟩
  intro m c server e failed
  have stopped := @carryOut_of_error m c server files e failed
  exact ⟨stopped, by rw [stopped]; rfl⟩

/-- A worker that knows one probe. -/
def webWorker : Worker where
  registry := ⟨[{ name := "web" }], by simp⟩

def webTest : Test where
  kind := "web"
  target := "host"
  input := "host must run web"
  arguments := .empty

/-- A comment and a line that asks for that test. -/
def webLines : List (List Char × Bool) :=
  [("# web".toList, true), (" host must run web".toList, false)]

/-- A file of these lines. -/
def webTree : Files.Tree where
  nodes := [(["jobs".toList], .file (Payload.ofText (String.ofList (writtenLines webLines []))))]

/-- The test in that file is read, it comes to the queue unless it is refused, and the worker runs it. -/
theorem web_enqueued :
    linesOf (String.ofList (writtenLines webLines [])) = ["# web", " host must run web"] ∧
      JobsIn webWorker.registry webTree ["/jobs"] [webTest] ∧
      (∀ c server, (Program.carryOut { network := .unreachable, files := webTree } c
        (.enqueue server ["/none"])).queues.store.held "jobs" = []) ∧
      (Event.applyAll [pushed "jobs" true webTest] {}).held "jobs" = [payloadOf webTest] ∧
      outcome [webTest] (some webTest) = .error (.refused "host must run web") ∧
      webWorker.process (payloadOf webTest) = (do let _ ← webWorker.execute webTest) := by
  obtain ⟨lines, read, -, program, -, ended, worker⟩ := enqueued_as_read webWorker.registry webTree ["/jobs"] "jobs"
  have jobs := (read [webTest]).1 (by decide +kernel)
  have accepted : Ended "jobs" [webTest] 1 [pushed "jobs" true webTest] none := .all
  have refused : Ended "jobs" [webTest] 0 [pushed "jobs" false webTest] (some webTest) := .refused rfl
  have missing : readJobs .bundled webTree ["/none"] = .error (.unreadable "/none" .notFound) := by decide +kernel
  refine ⟨lines webLines [] (by decide) (by decide) (by decide), jobs, fun c server => ?_,
    (ended _ _ _ _ {} accepted).1.own, ?_, (worker _ webWorker jobs rfl webTest (by simp)).2.1⟩
  · rw [((enqueued_as_read webWorker.registry webTree ["/none"] "jobs").2.2.2.1 _ c server _ missing).2]
    rfl
  · rw [(ended _ _ _ _ {} refused).2]
    decide +kernel

end Enqueue

end Lookout
