import Lookout.Proofs.Worker.Disclosure
import Lookout.Proofs.Worker.Jobs
import Mathlib.Algebra.BigOperators.Group.Finset.Basic
import Mathlib.Data.Multiset.Bind

/-!
# Workers that share a queue

Any number of workers take payloads off one queue, while others push, pops fail and the signal to stop comes,
in any order. Each payload is taken once and its job is carried out to the end by the worker that took it; so
the messages that come out are those of the payloads taken, whoever took them and whenever.
-/

namespace Lookout
set_option autoImplicit false
open Activity Simulation

variable {h : List Entry} {s t : System} {i n : Nat}

/-- What all do is what each of them does. -/
theorem sum_deeds {α : Type} (f : Deed → Option α) (within : ∀ e ∈ h, e.Within n) :
    ((h.filterMap fun e => e.deed?.bind f : List α) : Multiset α) =
      ∑ i ∈ Finset.range n, ((deeds i h).filterMap f : Multiset α) := by
  induction h with
  | nil => simp [deeds]
  | cons e h ih =>
    have others := ih fun e' mem => within e' (List.mem_cons_of_mem _ mem)
    have split : ∀ i, ((deeds i (e :: h)).filterMap f : Multiset α) =
        (((e.deedOf? i).bind f).toList : Multiset α) + ((deeds i h).filterMap f : Multiset α) := by
      intro i
      rw [deeds_cons, List.filterMap_append, ← Multiset.coe_add]
      cases e.deedOf? i with
      | none => rfl
      | some d => cases seen : f d <;> simp [seen]
    have here : ∑ i ∈ Finset.range n, (((e.deedOf? i).bind f).toList : Multiset α) =
        ((e.deed?.bind f).toList : Multiset α) := by
      cases e with
      | turn j d =>
        have first : j ∈ Finset.range n := Finset.mem_range.2 (within _ List.mem_cons_self)
        rw [Finset.sum_eq_single_of_mem j first]
        · simp [Entry.deedOf?, Entry.deed?]
        · intro i _ other
          simp [Entry.deedOf?, Ne.symm other]
      | delivered | cancelled | changed => simp [Entry.deedOf?, Entry.deed?]
    rw [Finset.sum_congr rfl fun i _ => split i, Finset.sum_add_distrib, here, ← others, List.filterMap_cons]
    cases e.deed?.bind f <;> simp

/-- In a history everything is answered to every consumer as an oracle says, and every push accepted. -/
structure Oracle.Rules (o : Oracle) (h : List Entry) : Prop where
  governs : ∀ i, o.Governs [] (deeds i h)
  accepted : ∀ i queue payload, Deed.did (.push queue payload false) ∉ deeds i h

namespace Worker

variable {o : Oracle} {v w : Worker} {ws : List Worker} {ds : List Deed} {phase : Phase}

/-- What complete jobs publish. -/
theorem posted_of_complete {jobs : List Job} (alike : Alike w v) (complete : ∀ j ∈ jobs, j.Complete w.consumer)
    (obeyed : ∀ j ∈ jobs, o.Obeyed [] j.events) (accepted : ∀ j ∈ jobs, Accepted j.events) :
    ∃ ms : List ResultMessage,
      (jobs.flatMap (Job.deeds w.settings.jobsQueue)).filterMap (Deed.posted? w.settings.resultsQueue) =
        ms.map ResultMessage.wire ∧
      ms.map ResultMessage.untimed = (jobs.map Job.payload).flatMap (v.messages o) := by
  induction jobs with
  | nil => exact ⟨[], rfl, rfl⟩
  | cons j jobs ih =>
    rw [List.forall_mem_cons] at complete obeyed accepted
    obtain ⟨ms, pushed, untimed⟩ := pushed_of_run alike complete.1 obeyed.1
    obtain ⟨others, posted, untimed'⟩ := ih complete.2 obeyed.2 accepted.2
    refine ⟨ms ++ others, ?_, by simp [untimed, untimed']⟩
    rw [List.flatMap_cons, List.filterMap_append, Job.posted_messages accepted.1 pushed, posted, List.map_append]

/-- What a worker has published: the messages of the payloads that it has taken, but for those of the payload
that it is at work on that are still to come. -/
theorem posted_of_diligent (alike : Alike w v) (diligent : Diligent w.consumer ds phase) (governs : o.Governs [] ds)
    (accepted : ∀ queue payload, Deed.did (.push queue payload false) ∉ ds) :
    ∃ ms : List ResultMessage, ds.filterMap (Deed.posted? w.settings.resultsQueue) = ms.map ResultMessage.wire ∧
      ms.map ResultMessage.untimed <+: (ds.filterMap (Deed.taken? w.settings.jobsQueue)).flatMap (v.messages o) ∧
      (phase.work? w.consumer = none →
        ms.map ResultMessage.untimed = (ds.filterMap (Deed.taken? w.settings.jobsQueue)).flatMap (v.messages o)) := by
  have refused : ∀ {jobs : List Job} {source : String}, (∀ queue payload, Deed.did (.push queue payload false) ∉
      jobs.flatMap (Job.deeds source)) → ∀ j ∈ jobs, Accepted j.events := by
    intro jobs source accepted j mem queue payload pushed
    refine accepted queue payload (List.mem_flatMap.2 ⟨j, mem, ?_⟩)
    exact List.mem_cons_of_mem _ (List.mem_map_of_mem pushed)
  cases diligent with
  | @idle jobs _ complete free =>
    obtain ⟨ms, posted, untimed⟩ := posted_of_complete alike complete governs.obeyed (refused accepted)
    have taken : (jobs.flatMap (Job.deeds w.consumer.source)).filterMap (Deed.taken? w.settings.jobsQueue) =
        jobs.map Job.payload := taken_jobs jobs _
    rw [taken, ← untimed]
    exact ⟨ms, posted, List.prefix_rfl, fun _ => rfl⟩
  | @engaged jobs j _ work complete engaged course =>
    have one : jobs.flatMap (Job.deeds w.consumer.source) ++ j.deeds w.consumer.source =
        (jobs ++ [j]).flatMap (Job.deeds w.consumer.source) := by simp
    rw [one] at governs accepted
    have obeyed := governs.obeyed
    have accepted := refused accepted
    simp only [List.mem_append, List.mem_singleton, or_imp, forall_and, forall_eq] at obeyed accepted
    obtain ⟨ms, posted, untimed⟩ := posted_of_complete alike complete obeyed.1 accepted.1
    -- the last job is under way: only the first ones of its messages are there
    obtain ⟨last, pushed, short⟩ := pushed_of_leads alike course obeyed.2
    have taken : ((jobs ++ [j]).flatMap (Job.deeds w.consumer.source)).filterMap (Deed.taken? w.settings.jobsQueue) =
        (jobs ++ [j]).map Job.payload := taken_jobs _ _
    rw [one, taken]
    refine ⟨ms ++ last, ?_, ?_, ?_⟩
    · rw [List.flatMap_append, List.filterMap_append, List.map_append, List.flatMap_singleton,
        Job.posted_messages accepted.2 pushed]
      exact congrArg (· ++ _) posted
    · rw [List.map_append, List.map_append, List.flatMap_append, untimed]
      simpa using short
    · intro free
      cases free.symm.trans engaged

/-- What several workers have published, by what each of them has. -/
theorem sum_messages {posted taken : ℕ → List Payload} {f : Payload → List ResultMessage} {free : Prop}
    (each : ∀ i < n, ∃ ms : List ResultMessage, posted i = ms.map ResultMessage.wire ∧
      ms.map ResultMessage.untimed <+: (taken i).flatMap f ∧
      (free → ms.map ResultMessage.untimed = (taken i).flatMap f)) :
    ∃ M : Multiset ResultMessage, ∑ i ∈ Finset.range n, (posted i : Multiset Payload) = M.map ResultMessage.wire ∧
      M.map ResultMessage.untimed ≤ (∑ i ∈ Finset.range n, (taken i : Multiset Payload)).bind (f ·) ∧
      (free → M.map ResultMessage.untimed = (∑ i ∈ Finset.range n, (taken i : Multiset Payload)).bind (f ·)) := by
  induction n with
  | zero => exact ⟨0, rfl, le_refl _, fun _ => rfl⟩
  | succ n ih =>
    obtain ⟨M, wires, bounded, all⟩ := ih fun i less => each i (Nat.lt_succ_of_lt less)
    obtain ⟨ms, wire, first, last⟩ := each n (Nat.lt_succ_self n)
    have one : (taken n : Multiset Payload).bind (f ·) = ((taken n).flatMap f : Multiset ResultMessage) :=
      Multiset.coe_bind _ _
    rw [Finset.sum_range_succ, Finset.sum_range_succ, Multiset.add_bind, one]
    refine ⟨M + ms, ?_, ?_, ?_⟩
    · rw [wires, wire, Multiset.map_add, Multiset.map_coe]
    · rw [Multiset.map_add, Multiset.map_coe]
      exact add_le_add bounded (Multiset.coe_le.2 first.sublist.subperm)
    · intro done
      rw [Multiset.map_add, Multiset.map_coe, all done, last done]

/-- The system in which workers begin that share a queue for jobs and one for results. -/
structure Begun (ws : List Worker) (jobs results : String) (s : System) : Prop where
  running : s.running = ws.map fun w => ⟨w.consumer, .ready⟩
  queues : ∀ w ∈ ws, w.settings.jobsQueue = jobs ∧ w.settings.resultsQueue = results

variable {jobs results : String}

/-- Where a worker stands after a history, and what it has done. -/
theorem Begun.diligent (begun : Begun ws jobs results s) (history : History s h t) (there : ws[i]? = some w) :
    ∃ phase, t.running[i]? = some ⟨w.consumer, phase⟩ ∧ Diligent w.consumer (deeds i h) phase := by
  have first : s.running[i]? = some ⟨w.consumer, .ready⟩ := by
    rw [begun.running, List.getElem?_map, there]
    rfl
  exact history.diligent first rfl

theorem Begun.posted (begun : Begun ws jobs results s) (history : History s h t) (alike : ∀ v ∈ ws, Alike v w)
    (rules : o.Rules h) :
    ∃ M : Multiset ResultMessage, (h.filterMap (Entry.posted? results) : Multiset Payload) = M.map ResultMessage.wire ∧
      M.map ResultMessage.untimed ≤
        ((h.filterMap (Entry.taken? jobs)).map Prod.snd : Multiset Payload).bind (w.messages o ·) ∧
      ((∀ r ∈ t.running, r.phase.work? r.consumer = none) → M.map ResultMessage.untimed =
        ((h.filterMap (Entry.taken? jobs)).map Prod.snd : Multiset Payload).bind (w.messages o ·)) := by
  have length : s.running.length = ws.length := by simp [begun.running]
  obtain ⟨same, within⟩ := history.within
  rw [length] at same within
  have posted : h.filterMap (Entry.posted? results) = h.filterMap fun e => e.deed?.bind (Deed.posted? results) := by
    congr 1
    funext e
    cases e <;> rfl
  have taken : (h.filterMap (Entry.taken? jobs)).map Prod.snd =
      h.filterMap fun e => e.deed?.bind (Deed.taken? jobs) := by
    rw [List.map_filterMap]
    congr 1
    funext e
    cases e with
    | turn j deed => simp [Entry.taken?, Entry.deed?, Function.comp_def]
    | delivered | cancelled | changed => rfl
  rw [posted, taken, sum_deeds _ within, sum_deeds _ within]
  refine sum_messages fun i less => ?_
  have there : ws[i]? = some ws[i] := List.getElem?_eq_getElem less
  obtain ⟨sameJobs, sameResults⟩ := begun.queues _ (List.getElem_mem less)
  obtain ⟨phase, here, diligent⟩ := begun.diligent history there
  obtain ⟨ms, wires, bounded, all⟩ :=
    posted_of_diligent (alike _ (List.getElem_mem less)) diligent (rules.governs i) (rules.accepted i)
  rw [sameJobs] at bounded all
  rw [sameResults] at wires
  exact ⟨ms, wires, bounded, fun free => all (free _ (List.mem_of_getElem? here))⟩

/-- **Exactly once**, for any number of workers that share their queues, and any history of them.
Payloads are taken in the order in which they were pushed, each by one worker, and what is not taken is still
there. The deeds of a worker are its complete jobs and the one that it is at work on. A worker stops only when it is
told to, and has then completed the job of every payload that it took. Where an oracle rules, workers that are alike
publish no more than the messages of the payloads taken, and just these once none is at work. A payload that no
test comes of is done with at once, and has no messages. -/
theorem exactly_once (begun : Begun ws jobs results s) (history : History s h t) :
    s.world.store.held jobs ++ h.filterMap (Entry.pushed? jobs) =
        (h.filterMap (Entry.taken? jobs)).map Prod.snd ++ t.world.store.held jobs ∧
      (∀ taking ∈ h.filterMap (Entry.taken? jobs), taking.1 < ws.length) ∧
      (∀ i w, ws[i]? = some w → ∃ phase, t.running[i]? = some ⟨w.consumer, phase⟩ ∧
        Diligent w.consumer (deeds i h) phase ∧
          (phase = .stopped → t.cancelled = true ∧
            ∃ js : List Job, (∀ j ∈ js, j.Complete w.consumer) ∧ deeds i h = js.flatMap (Job.deeds jobs) ∧
              js.map Job.payload = ((h.filterMap (Entry.taken? jobs)).filter (·.1 == i)).map Prod.snd)) ∧
      (∀ w o, (∀ v ∈ ws, Alike v w) → Oracle.Rules o h → ∃ M : Multiset ResultMessage,
        (h.filterMap (Entry.posted? results) : Multiset Payload) = M.map ResultMessage.wire ∧
          M.map ResultMessage.untimed ≤
            ((h.filterMap (Entry.taken? jobs)).map Prod.snd : Multiset Payload).bind (w.messages o ·) ∧
          ((∀ r ∈ t.running, r.phase.work? r.consumer = none) → M.map ResultMessage.untimed =
            ((h.filterMap (Entry.taken? jobs)).map Prod.snd : Multiset Payload).bind (w.messages o ·))) ∧
      ∀ w ∈ ws, ∀ p, w.Barren p → w.process p = .done () ∧ ∀ o, w.messages o p = [] := by
  have length : s.running.length = ws.length := by simp [begun.running]
  refine ⟨history.ledger jobs, ?_, ?_, fun w o alike rules => begun.posted history alike rules,
    fun w _ p barren => ⟨barren.process_eq, barren.messages_eq⟩⟩
  · intro taking mem
    obtain ⟨e, old, seen⟩ := List.mem_filterMap.1 mem
    have within := history.within.2 e old
    cases e with
    | turn j deed =>
      obtain ⟨p, -, rfl⟩ := Option.map_eq_some_iff.1 seen
      exact length ▸ within
    | delivered | cancelled | changed => cases seen
  · intro i w there
    obtain ⟨phase, here, diligent⟩ := begun.diligent history there
    refine ⟨phase, here, diligent, ?_⟩
    rintro rfl
    have first : s.running[i]? = some ⟨w.consumer, .ready⟩ := by
      rw [begun.running, List.getElem?_map, there]
      rfl
    have told : t.cancelled = true := history.told_of_stopped first (by simp) here rfl
    refine ⟨told, ?_⟩
    have source : w.consumer.source = jobs := (begun.queues w (List.mem_of_getElem? there)).1
    generalize same : deeds i h = ds at diligent
    cases diligent with
    | @idle js _ complete free =>
      rw [source] at same
      refine ⟨js, complete, by rw [source], ?_⟩
      rw [← taken_deeds, same, taken_jobs]
    | engaged complete engaged course => cases engaged

/-- The payload that asks for the test of `rawWorker`. -/
def rawPayload : Payload :=
  Payload.ofText rawTest.input

/-- The work on that payload. -/
def rawWork : Activity Unit :=
  rawWorker.execute rawTest >>= fun _ => .done ()

theorem process_rawPayload : rawWorker.process rawPayload = rawWork := by
  have text : rawPayload.text? = some rawTest.input := Payload.text?_ofText _
  have job : JobLine.parse rawWorker.registry rawTest.input = .ok (some rawTest) := by decide +kernel
  unfold process
  simp only [text, job]
  rfl

/-- Two such workers, of which the second one gets on. -/
def rawPair (world : World) (phase : Phase) : System where
  world := world
  running := [⟨rawWorker.consumer, .ready⟩, ⟨rawWorker.consumer, phase⟩]

theorem rawPair_turn {world world' : World} {phase phase' : Phase} {pushed : Bool}
    (goes : System.step? false world rawWorker.consumer phase = some (phase', world', pushed)) :
    Step (rawPair world phase) (.turn 1 (System.deed? world rawWorker.consumer phase)) (rawPair world' phase') :=
  @Step.turn _ 1 ⟨rawWorker.consumer, phase⟩ _ _ _ rfl goes

/-- The only payload waits in the queue. -/
def rawWorld : World where
  store := Queue.Store.push {} "vigil.jobs" rawPayload

/-- The message of that test. -/
def rawMessage : ResultMessage :=
  rawTest.message rawTest.target none 0

/-- The second worker takes the payload, calls the probe, publishes, and stops when it is told to. -/
def rawHistory : List Entry :=
  [.turn 1 none, .turn 1 none, .turn 1 (some (.took "vigil.jobs" rawPayload)), .turn 1 none,
    .turn 1 (some (.did (.call (rawWorker.callOf rawTest rawTest.target) none))), .turn 1 (some (.did (.time 0))),
    .turn 1 (some (.did (.push "vigil.results" rawMessage.wire true))), .turn 1 none, .cancelled, .turn 1 none]

theorem rawHistory_happens : ∃ t, History (rawPair rawWorld .ready) rawHistory t ∧
    t.running[1]? = some ⟨rawWorker.consumer, .stopped⟩ ∧ ∀ r ∈ t.running, r.phase.work? r.consumer = none := by
  have start : History (rawPair rawWorld .ready) [] (rawPair rawWorld .ready) := .nil
  have looked := History.snoc (History.snoc start (rawPair_turn rfl)) (rawPair_turn rfl)
  have taken : History (rawPair rawWorld .ready) (rawHistory.take 4)
      (rawPair { rawWorld with store := ⟨[("vigil.jobs", [])]⟩ } (.busy (rawWorker.process rawPayload))) :=
    History.snoc (History.snoc looked (rawPair_turn rfl)) (rawPair_turn rfl)
  rw [process_rawPayload] at taken
  have called := History.snoc (History.snoc taken (rawPair_turn rfl)) (rawPair_turn rfl)
  have worked := History.snoc (History.snoc called (rawPair_turn rfl)) (rawPair_turn rfl)
  have stopped := History.snoc (History.snoc worked .cancel)
    (@Step.turn _ 1 ⟨rawWorker.consumer, .ready⟩ _ _ _ rfl rfl)
  exact ⟨_, stopped, rfl, by simp [rawPair, Phase.work?]⟩

/-- Every lookup fails, and every probe passes. -/
def passing : Oracle where
  lookup _ := none
  outcome _ _ _ := none

/-- The second one of two workers has processed the only payload to the end when it has stopped, and published its
one message. -/
theorem raw_processed_once :
    (∃ js : List Job, (∀ j ∈ js, j.Complete rawWorker.consumer) ∧ js.map Job.payload = [rawPayload]) ∧
      ∃ M : Multiset ResultMessage, ([rawMessage.wire] : Multiset Payload) = M.map ResultMessage.wire ∧
        M.map ResultMessage.untimed = ([rawPayload] : Multiset Payload).bind (rawWorker.messages passing ·) := by
  have begun : Begun [rawWorker, rawWorker] "vigil.jobs" "vigil.results" (rawPair rawWorld .ready) :=
    ⟨rfl, by simp [rawWorker]⟩
  have alike : ∀ v ∈ [rawWorker, rawWorker], Alike v rawWorker := by
    intro v mem
    obtain rfl : v = rawWorker := by simpa using mem
    exact ⟨rfl, rfl, rfl⟩
  have rules : passing.Rules rawHistory := by
    have others : ∀ i, i ≠ 1 → deeds i rawHistory = [] := by
      intro i other
      simp [rawHistory, deeds, List.filterMap_cons, Entry.deedOf?, Ne.symm other]
    constructor
    · intro i
      by_cases second : i = 1
      · subst second
        exact ⟨rfl, trivial, trivial, trivial⟩
      · rw [others i second]
        trivial
    · intro i queue payload mem
      by_cases second : i = 1
      · subst second
        simp [rawHistory, deeds, List.filterMap_cons, Entry.deedOf?] at mem
      · simp [others i second] at mem
  obtain ⟨t, history, stopped, free⟩ := rawHistory_happens
  obtain ⟨-, -, workers, messages, -⟩ := exactly_once begun history
  obtain ⟨phase, there, -, ended⟩ := workers 1 rawWorker rfl
  obtain rfl : phase = .stopped := by simpa using (there.symm.trans stopped)
  obtain ⟨-, js, complete, -, payloads⟩ := ended rfl
  obtain ⟨M, wires, -, all⟩ := messages rawWorker passing alike rules
  exact ⟨⟨js, complete, payloads⟩, M, wires, all free⟩

end Worker

end Lookout
