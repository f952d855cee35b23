import Lookout.Proofs.Simulation.Turn
import Mathlib.Data.List.Basic

/-!
# Histories of consumers at work

Consumers take their steps in any order. In between others push payloads and announce them, time passes, pops
are made to fail, answers change, and the consumers are told to stop, all at any moment. A history is what can be
seen of that. What a queue held and was pushed is what was taken from it and what it still holds, in one order;
and the deeds of a consumer are complete jobs, up to the one that it is at work on.
-/

namespace Lookout
set_option autoImplicit false
open Activity Queue

/-- What can be seen of one step of a system. -/
inductive Entry where
  /-- The consumer number `i` takes a step. -/
  | turn (i : Nat) (deed : Option Deed)
  /-- Someone else pushes a payload. -/
  | delivered (queue : String) (payload : Payload)
  /-- The consumers are told to stop. -/
  | cancelled
  /-- Something in the surroundings changes. -/
  | changed

namespace Entry

/-- What the consumer number `i` does. -/
def deedOf? (i : Nat) : Entry → Option Deed
  | turn j deed => if j = i then deed else none
  | _ => none

/-- What someone else adds to a queue. -/
def delivered? (queue : String) : Entry → Option Payload
  | delivered q p => if q = queue then some p else none
  | _ => none

/-- What a consumer adds to a queue. -/
def posted? (queue : String) : Entry → Option Payload
  | turn _ deed => deed.bind (Deed.posted? queue)
  | _ => none

/-- What is added to a queue. -/
def pushed? (queue : String) (e : Entry) : Option Payload :=
  (e.delivered? queue).or (e.posted? queue)

/-- What is taken from a queue, and by which consumer. -/
def taken? (queue : String) : Entry → Option (Nat × Payload)
  | turn i deed => (deed.bind (Deed.taken? queue)).map (i, ·)
  | _ => none

/-- What is seen of a step of any consumer. -/
def deed? : Entry → Option Deed
  | turn _ deed => deed
  | _ => none

/-- The step is one of the first `n` consumers, if it is one of a consumer. -/
def Within (n : Nat) : Entry → Prop
  | turn i _ => i < n
  | _ => True

end Entry

/-- What the consumer number `i` did. -/
def deeds (i : Nat) (h : List Entry) : List Deed :=
  h.filterMap (Entry.deedOf? i)

theorem deeds_cons (i : Nat) (e : Entry) (h : List Entry) : deeds i (e :: h) = (e.deedOf? i).toList ++ deeds i h := by
  rw [deeds, List.filterMap_cons]
  cases e.deedOf? i <;> rfl

theorem deeds_concat (i : Nat) (h : List Entry) (e : Entry) :
    deeds i (h ++ [e]) = deeds i h ++ (e.deedOf? i).toList := by
  rw [deeds, List.filterMap_append]
  cases deed : e.deedOf? i <;> simp [deed, deeds]

/-- What a consumer takes is what is taken under its number. -/
theorem taken_deeds (i : Nat) (queue : String) (h : List Entry) :
    (deeds i h).filterMap (Deed.taken? queue) =
      ((h.filterMap (Entry.taken? queue)).filter (·.1 == i)).map Prod.snd := by
  induction h with
  | nil => rfl
  | cons e h ih =>
    rw [deeds_cons, List.filterMap_append, ih, List.filterMap_cons]
    cases e with
    | turn j deed =>
      cases deed with
      | none => simp [Entry.deedOf?, Entry.taken?]
      | some d =>
        have seen : Entry.taken? queue (.turn j (some d)) = (d.taken? queue).map (j, ·) := rfl
        rw [seen]
        by_cases same : j = i
        · cases got : d.taken? queue <;> simp [Entry.deedOf?, same, got]
        · cases got : d.taken? queue <;> simp [Entry.deedOf?, same]
    | delivered | cancelled | changed => rfl

/-- A payload and what happened in the work on it. -/
structure Job where
  payload : Payload
  events : List Event

namespace Job

/-- The deeds of a job whose payload comes from a queue. -/
def deeds (queue : String) (j : Job) : List Deed :=
  .took queue j.payload :: j.events.map .did

/-- The work on the payload has come to its end. -/
def Complete (c : Consumer) (j : Job) : Prop :=
  Run (c.handle j.payload) j.events ()

theorem taken_deeds (j : Job) (source : String) : (j.deeds source).filterMap (Deed.taken? source) = [j.payload] := by
  have noneTaken : (j.events.map Deed.did).filterMap (Deed.taken? source) = [] := by
    simp [List.filterMap_eq_nil_iff, Deed.taken?]
  simp [deeds, Deed.taken?, noneTaken]

end Job

/-- What is taken for jobs is their payloads. -/
theorem taken_jobs (jobs : List Job) (source : String) :
    (jobs.flatMap (Job.deeds source)).filterMap (Deed.taken? source) = jobs.map Job.payload := by
  induction jobs with
  | nil => rfl
  | cons j jobs ih => simp [ih, Job.taken_deeds]

/-- The deeds are those of complete jobs, and of one more if the consumer is at work. -/
inductive Diligent (c : Consumer) : List Deed → Phase → Prop where
  | idle {jobs : List Job} {phase : Phase} (complete : ∀ j ∈ jobs, j.Complete c) (free : phase.work? c = none) :
      Diligent c (jobs.flatMap (Job.deeds c.source)) phase
  | engaged {jobs : List Job} {j : Job} {phase : Phase} {work : Activity Unit}
      (complete : ∀ j ∈ jobs, j.Complete c) (engaged : phase.work? c = some work)
      (course : Leads (c.handle j.payload) j.events work) :
      Diligent c (jobs.flatMap (Job.deeds c.source) ++ j.deeds c.source) phase

/-- It only counts which work was begun. -/
theorem Diligent.of_work?_eq {c : Consumer} {ds : List Deed} {phase phase' : Phase} (h : Diligent c ds phase)
    (same : phase'.work? c = phase.work? c) : Diligent c ds phase' := by
  cases h with
  | idle complete free => exact .idle complete (same.trans free)
  | engaged complete engaged course => exact .engaged complete (same.trans engaged) course

namespace Simulation

/-- One step of a system. -/
inductive Step (s : System) : Entry → System → Prop where
  | turn {i : Nat} {r : Running} {phase : Phase} {world : World} {pushed : Bool} (there : s.running[i]? = some r)
      (goes : System.step? s.cancelled s.world r.consumer r.phase = some (phase, world, pushed)) :
      Step s (.turn i (System.deed? s.world r.consumer r.phase))
        { s with world, running := s.running.set i { r with phase } }
  | deliver (queue : String) (payload : Payload) : Step s (.delivered queue payload)
      { s with world := { s.world with store := s.world.store.push queue payload } }
  /-- A push is announced. -/
  | announce : Step s .changed { s with running := s.running.map System.notify }
  | cancel : Step s .cancelled { s with cancelled := true }
  /-- Time passes, pops are made to fail, pushes are refused, answers change: all but the queues. -/
  | change {world : World} (same : world.store = s.world.store) (later : s.world.now ≤ world.now) :
      Step s .changed { s with world }

/-- Steps one after the other. -/
inductive History (s : System) : List Entry → System → Prop where
  | nil : History s [] s
  | snoc {h : List Entry} {u v : System} {e : Entry} : History s h u → Step u e v → History s (h ++ [e]) v

variable {s t : System} {e : Entry} {h : List Entry} {i : Nat} {r : Running}

theorem History.trans {u : System} {h' : List Entry} (first : History s h u) (later : History u h' t) :
    History s (h ++ h') t := by
  induction later with
  | nil => rwa [List.append_nil]
  | snoc _ step ih =>
    rw [← List.append_assoc]
    exact .snoc ih step

/-- What an announcement does to where a consumer stands. -/
inductive Told : Phase → Phase → Prop where
  | unmoved (phase : Phase) : Told phase phase
  | notified (pop : Pop) : Told (.popping pop) (.popping pop.notify)

theorem told_notify (r : Running) : ∃ phase, System.notify r = { r with phase } ∧ Told r.phase phase := by
  obtain ⟨consumer, phase⟩ := r
  cases phase with
  | popping pop => exact ⟨_, rfl, .notified pop⟩
  | ready | busy | asleep | paused | stopped => exact ⟨_, rfl, .unmoved _⟩

theorem Told.work?_eq {phase phase' : Phase} (told : Told phase phase') (c : Consumer) :
    phase'.work? c = phase.work? c := by
  cases told with
  | unmoved => rfl
  | notified pop => cases pop <;> rfl

/-- What a step of the system is to one of its consumers: a step of its own, or at most an announcement. -/
theorem Step.at_consumer (step : Step s e t) (there : s.running[i]? = some r) :
    ∃ phase, t.running[i]? = some { r with phase } ∧
      ((∃ world, Turn s.cancelled r.consumer s.world r.phase (e.deedOf? i) phase world) ∨
        e.deedOf? i = none ∧ Told r.phase phase) := by
  cases step with
  | @turn j r' phase world pushed own goes =>
    by_cases same : j = i
    · subst same
      obtain rfl := Option.some.inj (own.symm.trans there)
      refine ⟨phase, List.getElem?_set_self (List.getElem?_eq_some_iff.1 there).1, .inl ⟨world, ?_⟩⟩
      simpa [Entry.deedOf?] using turn_of_step? goes
    · refine ⟨r.phase, ?_, .inr ⟨by simp [Entry.deedOf?, same], .unmoved _⟩⟩
      rw [List.getElem?_set_ne same, there]
  | announce =>
    obtain ⟨phase, same, told⟩ := told_notify r
    exact ⟨phase, by simp [there, same], .inr ⟨rfl, told⟩⟩
  | deliver | cancel | change => exact ⟨r.phase, there, .inr ⟨rfl, .unmoved _⟩⟩

theorem Step.cancelled (step : Step s e t) (told : s.cancelled = true) : t.cancelled = true := by
  cases step with
  | cancel => rfl
  | turn | deliver | announce | change => exact told

/-- What a step of a consumer adds to a queue and takes from it. -/
theorem Turn.ledger {cancelled : Bool} {c : Consumer} {w w' : World} {phase phase' : Phase} {deed : Option Deed}
    (turn : Turn cancelled c w phase deed phase' w') (queue : String) :
    w.store.held queue ++ (deed.bind (Deed.posted? queue)).toList =
      (deed.bind (Deed.taken? queue)).toList ++ w'.store.held queue := by
  cases turn with
  | take found =>
    obtain ⟨own, others⟩ := Store.take?_eq_some found
    by_cases same : c.source = queue
    · subst same
      simp [Deed.posted?, Deed.taken?, own]
    · simp [Deed.posted?, Deed.taken?, same, others queue (Ne.symm same)]
  | effect next left goes =>
    rw [left, held_applyTo]
    simp [Deed.taken?]
  | fail told same => simp [same]
  | stop | start | look | begin | again | finish | wake | resume => simp

theorem Step.ledger (step : Step s e t) (queue : String) :
    s.world.store.held queue ++ (e.pushed? queue).toList =
      ((e.taken? queue).map Prod.snd).toList ++ t.world.store.held queue := by
  cases step with
  | turn there goes =>
    have turn := (turn_of_step? goes).ledger queue
    simpa [Entry.pushed?, Entry.delivered?, Entry.posted?, Entry.taken?, Function.comp_def] using turn
  | deliver q payload =>
    by_cases same : q = queue
    · simp [Entry.pushed?, Entry.delivered?, Entry.taken?, Store.held_push, same]
    · simp [Entry.pushed?, Entry.delivered?, Entry.posted?, Entry.taken?, Store.held_push, same, Ne.symm same]
  | change same later => simp [Entry.pushed?, Entry.delivered?, Entry.posted?, Entry.taken?, same]
  | announce | cancel => simp [Entry.pushed?, Entry.delivered?, Entry.posted?, Entry.taken?]

/-- **What a queue held and was pushed** is what was taken from it and what it still holds, in one order. -/
theorem History.ledger (history : History s h t) (queue : String) :
    s.world.store.held queue ++ h.filterMap (Entry.pushed? queue) =
      (h.filterMap (Entry.taken? queue)).map Prod.snd ++ t.world.store.held queue := by
  induction history with
  | nil => simp
  | @snoc h u v e _ step ih =>
    have last := step.ledger queue
    rw [List.filterMap_append, List.filterMap_append, ← List.append_assoc, ih, List.append_assoc]
    simp only [List.filterMap_cons, List.filterMap_nil, List.map_append]
    cases put : e.pushed? queue <;> cases got : e.taken? queue <;> simp_all

/-- A pop that takes nothing begins no work. -/
theorem work?_of_goes {c : Consumer} {queue : String} {now : Nat} {s s' : Store} {pop pop' : Pop}
    (goes : pop.Goes queue now s pop' s') (nothing : ∀ p, pop' ≠ .returned (some p)) :
    (Phase.popping pop').work? c = none ∧ (Phase.popping pop).work? c = none := by
  cases goes with
  | take found => exact absurd rfl (nothing _)
  | register | miss | wake | giveUp => exact ⟨rfl, rfl⟩

/-- A step keeps the deeds in order. -/
theorem Turn.diligent {cancelled : Bool} {c : Consumer} {w w' : World} {phase phase' : Phase} {deed : Option Deed}
    {ds : List Deed} (turn : Turn cancelled c w phase deed phase' w') (before : Diligent c ds phase) :
    Diligent c (ds ++ deed.toList) phase' := by
  cases turn with
  | take found =>
    cases before with
    | @idle jobs _ complete free =>
      -- a new job begins, in which nothing has happened
      exact @Diligent.engaged c jobs ⟨_, []⟩ _ _ complete rfl .nil
    | engaged complete engaged course => cases engaged
  | @effect a b e _ _ next left goes =>
    cases before with
    | idle complete free => cases free
    | @engaged jobs j _ _ complete engaged course =>
      obtain rfl := Option.some.inj engaged
      have work : phase'.work? c = some b := by
        rcases goes with rfl | ⟨till, rfl⟩ <;> rfl
      have all := @Diligent.engaged c jobs ⟨j.payload, j.events ++ [e]⟩ phase' b complete work (.snoc course next)
      simpa [Job.deeds] using all
  | finish =>
    cases before with
    | idle complete free => cases free
    | @engaged jobs j _ _ complete engaged course =>
      obtain rfl := Option.some.inj engaged
      have done : ∀ k ∈ jobs ++ [j], k.Complete c := by
        intro k mem
        rcases List.mem_append.1 mem with old | new
        · exact complete k old
        · exact List.mem_singleton.1 new ▸ course.run_of_done
      simpa using @Diligent.idle c (jobs ++ [j]) .ready done rfl
  | look goes nothing =>
    obtain ⟨after, before'⟩ := work?_of_goes (c := c) goes nothing
    simpa using before.of_work?_eq (after.trans before'.symm)
  | stop | start | fail | again | resume | begin | wake =>
    rw [Option.toList_none, List.append_nil]
    exact before.of_work?_eq rfl

/-- **The deeds of a consumer** that begins without work are complete jobs, and of one more if it is at work. -/
theorem History.diligent (history : History s h t) (there : s.running[i]? = some r)
    (free : r.phase.work? r.consumer = none) :
    ∃ phase, t.running[i]? = some { r with phase } ∧ Diligent r.consumer (deeds i h) phase := by
  induction history with
  | nil => exact ⟨r.phase, there, @Diligent.idle _ [] _ (by simp) free⟩
  | @snoc h u v e _ step ih =>
    obtain ⟨phase, here, before⟩ := ih
    obtain ⟨phase', after, ⟨world, turn⟩ | ⟨nothing, told⟩⟩ := step.at_consumer here
    · refine ⟨phase', after, ?_⟩
      rw [deeds_concat]
      exact turn.diligent before
    · refine ⟨phase', after, ?_⟩
      rw [deeds_concat, nothing]
      simpa using before.of_work?_eq (told.work?_eq _)

theorem Step.length_running (step : Step s e t) : t.running.length = s.running.length := by
  cases step <;> simp

theorem History.within (history : History s h t) :
    t.running.length = s.running.length ∧ ∀ e ∈ h, e.Within s.running.length := by
  induction history with
  | nil => simp
  | @snoc h u v e _ step ih =>
    obtain ⟨same, within⟩ := ih
    refine ⟨step.length_running.trans same, ?_⟩
    intro e' mem
    rcases List.mem_append.1 mem with old | new
    · exact within e' old
    · obtain rfl := List.mem_singleton.1 new
      cases step with
      | turn there goes => exact same ▸ (List.getElem?_eq_some_iff.1 there).1
      | deliver | announce | cancel | change => trivial

/-- A consumer stops only when it is told to. -/
theorem Turn.told_of_stopped {cancelled : Bool} {c : Consumer} {w w' : World} {phase : Phase} {deed : Option Deed}
    (turn : Turn cancelled c w phase deed .stopped w') : cancelled = true := by
  cases turn with
  | stop told => exact told
  | effect next left goes => rcases goes with goes | ⟨till, goes⟩ <;> cases goes

theorem History.told_of_stopped {r r' : Running} (history : History s h t) (there : s.running[i]? = some r)
    (working : r.phase ≠ .stopped) (here : t.running[i]? = some r') (stopped : r'.phase = .stopped) :
    t.cancelled = true := by
  induction history generalizing r' with
  | nil =>
    obtain rfl := Option.some.inj (there.symm.trans here)
    exact absurd stopped working
  | @snoc h u v e past step ih =>
    have inside : i < u.running.length := by
      rw [← step.length_running]
      exact (List.getElem?_eq_some_iff.1 here).1
    have before : u.running[i]? = some u.running[i] := List.getElem?_eq_getElem inside
    obtain ⟨phase, after, ⟨world, turn⟩ | ⟨-, told⟩⟩ := step.at_consumer before
    · obtain rfl := Option.some.inj (after.symm.trans here)
      obtain rfl : phase = .stopped := stopped
      exact step.cancelled turn.told_of_stopped
    · obtain rfl := Option.some.inj (after.symm.trans here)
      obtain rfl : phase = .stopped := stopped
      have same : u.running[i].phase = .stopped := by
        generalize u.running[i].phase = old at told
        cases told
        rfl
      exact step.cancelled (ih before same)

end Simulation

end Lookout
