import Lookout.Proofs.JobLine.Reading
import Lookout.Proofs.Simulation.History
import Lookout.Proofs.Worker.Oracle

/-!
# Jobs of workers

What a worker does with a payload is to run the test that it asks for, if it asks for one. An oracle fixes the
messages of that, and a job that is under way has published the first ones of them.
-/

namespace Lookout
set_option autoImplicit false
open Activity Simulation

/-- The deeds of a consumer have the answers of the oracle. Attempts are counted from the last payload that was
taken. -/
def Oracle.Governs (o : Oracle) : List Event → List Deed → Prop
  | _, [] => True
  | _, .took _ _ :: ds => o.Governs [] ds
  | past, .did e :: ds => o.Answers past e ∧ o.Governs (past ++ [e]) ds

theorem Oracle.governs_events_iff {o : Oracle} {past es : List Event} {ds : List Deed} :
    o.Governs past (es.map .did ++ ds) ↔ o.Obeyed past es ∧ o.Governs (past ++ es) ds := by
  induction es generalizing past with
  | nil => simp [Obeyed]
  | cons e es ih => simp [Governs, Obeyed, ih, and_assoc]

theorem Oracle.Governs.obeyed {o : Oracle} {queue : String} {past : List Event} {jobs : List Job}
    (governs : o.Governs past (jobs.flatMap (Job.deeds queue))) : ∀ j ∈ jobs, o.Obeyed [] j.events := by
  induction jobs generalizing past with
  | nil => simp
  | cons j jobs ih =>
    rw [List.flatMap_cons, Job.deeds, List.cons_append] at governs
    obtain ⟨here, later⟩ := Oracle.governs_events_iff.1 governs
    intro k mem
    rcases List.mem_cons.1 mem with rfl | mem
    · exact here
    · exact ih later k mem

/-- All payloads that were pushed have been accepted. -/
def Accepted (es : List Event) : Prop :=
  ∀ queue payload, Event.push queue payload false ∉ es

/-- Where all is accepted, a job adds to a queue what it pushes there. -/
theorem Job.posted_deeds {j : Job} (accepted : Accepted j.events) (source queue : String) :
    (j.deeds source).filterMap (Deed.posted? queue) =
      ((j.events.filterMap Event.pushed?).filter (·.1 == queue)).map Prod.snd := by
  obtain ⟨payload, events⟩ := j
  simp only [Job.deeds, List.filterMap_cons, Deed.posted?]
  induction events with
  | nil => rfl
  | cons e events ih =>
    have rest := ih fun q p mem => accepted q p (List.mem_cons_of_mem _ mem)
    cases e with
    | push q p answer =>
      cases answer with
      | false => exact absurd (List.mem_cons_self) (accepted q p)
      | true =>
        by_cases same : q = queue
        · simp [Deed.posted?, Event.pushed?, same, rest]
        · simp [Deed.posted?, Event.pushed?, same, rest]
    | lookup | call | wait | time => exact rest

theorem Job.posted_messages {j : Job} {queue : String} {ms : List ResultMessage} (accepted : Accepted j.events)
    (pushed : j.events.filterMap Event.pushed? = ms.map fun m => (queue, m.wire)) (source : String) :
    (j.deeds source).filterMap (Deed.posted? queue) = ms.map ResultMessage.wire := by
  rw [Job.posted_deeds accepted, pushed]
  simp [List.filter_map, Function.comp_def]

namespace Worker

variable {o : Oracle} {v w : Worker} {j : Job} {es : List Event} {p : Payload}

/-- The test that a payload asks for, if it is a job. -/
def job? (w : Worker) (payload : Payload) : Option Test :=
  payload.text?.bind fun line => (JobLine.parse w.registry line).toOption.join

/-- The messages that the work on a payload makes, but for their times. -/
def messages (w : Worker) (o : Oracle) (payload : Payload) : List ResultMessage :=
  match w.job? payload with
  | none => []
  | some t => (play o.environment [] (w.execute t)).2.map ResultMessage.untimed

theorem job?_eq_some_iff {t : Test} :
    w.job? p = some t ↔ ∃ line, p.text? = some line ∧ JobLine.parse w.registry line = .ok (some t) := by
  unfold job?
  rw [Option.bind_eq_some_iff]
  refine exists_congr fun line => and_congr_right fun _ => ?_
  cases JobLine.parse w.registry line <;> simp [Except.toOption]

theorem process_of_no_job (noJob : w.job? p = none) : w.process p = .done () := by
  unfold job? at noJob
  unfold process
  cases text : p.text? with
  | none => rfl
  | some line =>
    rw [text, Option.bind_some] at noJob
    cases parsed : JobLine.parse w.registry line with
    | error e => simp [parsed]
    | ok t =>
      cases t with
      | none => simp [parsed]
      | some t => simp [parsed, Except.toOption] at noJob

/-- The work on a payload pushes the messages that the oracle fixes. -/
theorem pushed_of_run (alike : Alike w v) (run : Run (w.process p) es ()) (obeyed : o.Obeyed [] es) :
    ∃ ms : List ResultMessage, es.filterMap Event.pushed? = ms.map (fun m => (w.settings.resultsQueue, m.wire)) ∧
      ms.map ResultMessage.untimed = v.messages o p := by
  have same : w.job? p = v.job? p := by
    unfold job?
    rw [alike.registry]
  cases job : w.job? p with
  | none =>
    rw [process_of_no_job job] at run
    obtain ⟨rfl, -⟩ := run_done_iff.1 run
    exact ⟨[], rfl, by simp [messages, ← same, job]⟩
  | some t =>
    obtain ⟨line, text, parsed⟩ := job?_eq_some_iff.1 job
    obtain ⟨ms, executed⟩ := (process_run_iff text parsed).1 run
    have played := executed_of_run (run_play o.environment [] (v.execute t))
    refine ⟨ms, executed.pushed, ?_⟩
    simp only [messages, ← same, job]
    exact executed.untimed_eq alike played obeyed (o.obeyed_play [] _)

/-- Work that is under way has pushed the first ones of those messages. -/
theorem pushed_of_leads {work : Activity Unit} (alike : Alike w v) (leads : Leads (w.process p) es work)
    (obeyed : o.Obeyed [] es) :
    ∃ ms : List ResultMessage, es.filterMap Event.pushed? = ms.map (fun m => (w.settings.resultsQueue, m.wire)) ∧
      ms.map ResultMessage.untimed <+: v.messages o p := by
  -- the oracle answers what is left of the work, so that the whole is a run that obeys it
  have rest := run_play o.environment es work
  have all : o.Obeyed [] (es ++ (play o.environment es work).1) :=
    Oracle.obeyed_append_iff.2 ⟨obeyed, o.obeyed_play es work⟩
  obtain ⟨ms, pushed, untimed⟩ := pushed_of_run alike (leads.run rest) all
  rw [List.filterMap_append] at pushed
  obtain ⟨ms, others, rfl, here, -⟩ := List.map_eq_append_iff.1 pushed.symm
  refine ⟨ms, here.symm, ?_⟩
  rw [← untimed, List.map_append]
  exact List.prefix_append _ _

/-- Payloads that no test comes of. -/
inductive Barren (w : Worker) : Payload → Prop where
  | notText {p : Payload} : p.text? = none → Barren w p
  | malformed {p : Payload} {line : String} {e : JobLineError} : p.text? = some line →
      JobLine.parse w.registry line = .error e → Barren w p
  /-- A blank line or a comment. -/
  | silent {p : Payload} {line : String} : p.text? = some line → JobLine.Silent line → Barren w p
  | unknown {p : Payload} {line : String} {t : Test} : p.text? = some line →
      JobLine.parse w.registry line = .ok (some t) → w.registry.get? t.kind = none → Barren w p

/-- Nothing is done with such a payload. -/
theorem Barren.process_eq (h : Barren w p) : w.process p = .done () := by
  cases h with
  | notText text => exact process_of_no_job (by simp [job?, text])
  | malformed text parsed => exact process_of_no_job (by simp [job?, text, parsed, Except.toOption])
  | silent text silent =>
    exact process_of_no_job (by simp [job?, text, JobLine.parse_of_silent silent, Except.toOption])
  | unknown text parsed unknown =>
    unfold process
    simp only [text, parsed]
    rw [execute_of_unknown unknown]
    rfl

theorem Barren.messages_eq (h : Barren w p) (o : Oracle) : w.messages o p = [] := by
  have run : Run (w.process p) [] () := h.process_eq ▸ .done ()
  obtain ⟨ms, pushed, untimed⟩ := pushed_of_run (o := o) ⟨rfl, rfl, rfl⟩ run trivial
  obtain rfl : ms = [] := List.map_eq_nil_iff.1 pushed.symm
  exact untimed.symm

end Worker

end Lookout
