import Lookout.Proofs.Simulation.History

/-!
# What routers copy

A router tries to push a payload once to the queue of each destination that takes it, in the order of its
destinations, and goes on to the next one whatever the answer is. Over a whole history it has therefore tried to push
to a queue just the payloads that it took, each as often as there are destinations with that queue that take it.
-/

namespace Lookout
set_option autoImplicit false
open Activity Simulation

/-- Whether a payload belongs to a destination: it is a JSON object and meets all conditions. -/
def Destination.takes (d : Destination) (p : Payload) : Bool :=
  (Json.object? p).any (d.accepts ·)

/-- What a deed tries to push, and to which queue. -/
def Deed.attempted? : Deed → Option (String × Payload)
  | .did e => e.pushed?
  | .took _ _ => none

/-- What was tried to push to one queue. -/
def attemptsAt (queue : String) (ds : List Deed) : List Payload :=
  ((ds.filterMap Deed.attempted?).filter (·.1 == queue)).map Prod.snd

/-- What a job tries to push is what its events do. -/
theorem Job.attempted_deeds (j : Job) (source : String) :
    (j.deeds source).filterMap Deed.attempted? = j.events.filterMap Event.pushed? := by
  rw [Job.deeds, List.filterMap_cons_none rfl, List.filterMap_map]
  rfl

namespace Router

variable {r : Router} {p : Payload} {es : List Event} {n : Nat} {queues : List String}

/-- The queues that a payload is copied to: that of each destination that takes it, in their order. -/
def copies (r : Router) (p : Payload) : List String :=
  (r.destinations.filter (·.takes p)).map Destination.queue

/-- The pushes that a payload asks for. -/
def addressed (r : Router) (p : Payload) : List (String × Payload) :=
  (r.copies p).map (·, p)

/-- The copies of a payload that belong to one queue: one for each destination with that queue that takes it. -/
def share (r : Router) (queue : String) (p : Payload) : List Payload :=
  List.replicate (r.destinations.countP fun d => d.queue == queue && d.takes p) p

/-- One push and the answer to it. -/
def attempt (p : Payload) (answered : String × Bool) : Event :=
  .push answered.1 p answered.2

theorem copies_of_malformed (malformed : Json.object? p = none) : r.copies p = [] := by
  simp [copies, Destination.takes, malformed]

theorem select?_eq (r : Router) (p : Payload) : r.select? p = (Json.object? p).map fun _ => r.copies p := by
  unfold select?
  cases message : Json.object? p with
  | none => rfl
  | some message' => simp only [Option.map_some, copies, Destination.takes, message, Option.any_some]

theorem route_eq (r : Router) (p : Payload) : r.route p = pushAll p (r.copies p) := by
  unfold route
  rw [select?_eq]
  cases message : Json.object? p with
  | none => simp only [Option.map_none, copies_of_malformed message, pushAll]
  | some message' => rfl

/-- Every queue is tried, whatever the answers; the result counts those that accepted. -/
theorem pushAll_run_iff : Run (pushAll p queues) es n ↔ ∃ answered : List (String × Bool),
    answered.map Prod.fst = queues ∧ es = answered.map (attempt p) ∧ n = answered.countP Prod.snd := by
  induction queues generalizing es n with
  | nil =>
    rw [pushAll, run_done_iff]
    constructor
    · rintro ⟨rfl, rfl⟩
      exact ⟨[], rfl, rfl, rfl⟩
    · rintro ⟨answered, noQueues, rfl, rfl⟩
      obtain rfl := List.map_eq_nil_iff.1 noQueues
      exact ⟨rfl, rfl⟩
  | cons queue queues ih =>
    rw [pushAll, pushTo, run_bind_iff]
    constructor
    · rintro ⟨first, rest, accepted, rfl, one, others⟩
      obtain ⟨answer, names, rfl, ended⟩ := run_push_iff.1 one
      obtain ⟨rfl, rfl⟩ := run_done_iff.1 ended
      obtain ⟨later, last, more, rfl, pushed, returned⟩ := run_bind_iff.1 others
      obtain ⟨rfl, rfl⟩ := run_done_iff.1 returned
      obtain ⟨answered, names, rfl, rfl⟩ := ih.1 pushed
      refine ⟨(queue, accepted) :: answered, by rw [List.map_cons, names], by simp [attempt], ?_⟩
      rw [List.countP_cons, Nat.add_comm]
    · rintro ⟨answered, names, rfl, rfl⟩
      obtain ⟨⟨queue, accepted⟩, answered, rfl, rfl, rfl⟩ := List.map_eq_cons_iff.1 names
      refine ⟨_, _, accepted, rfl, .push (.done accepted), ?_⟩
      refine run_bind_iff.2 ⟨_, [], _, (List.append_nil _).symm, ih.2 ⟨answered, rfl, rfl, rfl⟩, ?_⟩
      rw [List.countP_cons, Nat.add_comm]
      exact .done _

theorem route_run_iff : Run (r.route p) es n ↔ ∃ answered : List (String × Bool),
    answered.map Prod.fst = r.copies p ∧ es = answered.map (attempt p) ∧ n = answered.countP Prod.snd := by
  rw [route_eq, pushAll_run_iff]

/-- The work on a payload is to route it. -/
theorem handle_run_iff : Run (r.consumer.handle p) es () ↔ ∃ n, Run (r.route p) es n := by
  change Run (r.route p >>= fun _ => .done ()) es () ↔ _
  rw [run_bind_iff]
  constructor
  · rintro ⟨first, rest, n, rfl, routed, ended⟩
    obtain ⟨rfl, -⟩ := run_done_iff.1 ended
    exact ⟨n, by simpa using routed⟩
  · rintro ⟨n, routed⟩
    exact ⟨es, [], n, (List.append_nil es).symm, routed, .done ()⟩

/-- The work on a payload tries just the pushes that the payload asks for. -/
theorem pushed_of_run (run : Run (r.consumer.handle p) es ()) : es.filterMap Event.pushed? = r.addressed p := by
  obtain ⟨n, routed⟩ := handle_run_iff.1 run
  obtain ⟨answered, names, rfl, -⟩ := route_run_iff.1 routed
  rw [addressed, ← names, List.map_map, List.filterMap_map, ← List.filterMap_eq_map]
  rfl

/-- Work that is under way has tried the first ones of them. -/
theorem pushed_of_leads {work : Activity Unit} (course : Leads (r.consumer.handle p) es work) :
    es.filterMap Event.pushed? <+: r.addressed p := by
  -- what is left can run to its end, and all of it then is a run of the whole
  obtain ⟨rest, ⟨⟩, run⟩ := exists_run work
  rw [← pushed_of_run (course.run run), List.filterMap_append]
  exact List.prefix_append _ _

/-- Complete jobs have tried the pushes that their payloads ask for, in order. -/
theorem attempted_of_complete {jobs : List Job} (complete : ∀ j ∈ jobs, j.Complete r.consumer) (source : String) :
    (jobs.flatMap (Job.deeds source)).filterMap Deed.attempted? = (jobs.map Job.payload).flatMap r.addressed := by
  induction jobs with
  | nil => rfl
  | cons j jobs ih =>
    obtain ⟨first, others⟩ := List.forall_mem_cons.1 complete
    rw [List.flatMap_cons, List.filterMap_append, Job.attempted_deeds, pushed_of_run first, ih others, List.map_cons,
      List.flatMap_cons]

/-- Of the pushes that a payload asks for, those to one queue. -/
theorem addressed_filter (r : Router) (queue : String) (p : Payload) :
    ((r.addressed p).filter (·.1 == queue)).map Prod.snd = r.share queue p := by
  have alike : ∀ x ∈ ((r.addressed p).filter (·.1 == queue)).map Prod.snd, x = p := by
    simp [addressed]
  have many : (((r.addressed p).filter (·.1 == queue)).map Prod.snd).length =
      r.destinations.countP fun d => d.queue == queue && d.takes p := by
    simp [addressed, copies, List.filter_map, Function.comp_def, List.countP_eq_length_filter]
  rw [share, ← many]
  exact List.eq_replicate_of_mem alike

theorem addressed_flatMap_filter (queue : String) (ps : List Payload) :
    ((ps.flatMap r.addressed).filter (·.1 == queue)).map Prod.snd = ps.flatMap (r.share queue) := by
  induction ps with
  | nil => rfl
  | cons p ps ih => rw [List.flatMap_cons, List.filter_append, List.map_append, addressed_filter, ih, List.flatMap_cons]

/-- What a router has taken and has tried to push when it is done with some payloads and at work on one more, or on
none. -/
structure Copied (r : Router) (ds : List Deed) (finished : List Payload) (current : Option Payload) : Prop where
  taken : ds.filterMap (Deed.taken? r.source) = finished ++ current.toList
  attempted : ∃ part, part <+: current.toList.flatMap r.addressed ∧
    ds.filterMap Deed.attempted? = finished.flatMap r.addressed ++ part
  /-- The same for each queue. -/
  shared : ∀ queue, ∃ part, part <+: current.toList.flatMap (r.share queue) ∧
    attemptsAt queue ds = finished.flatMap (r.share queue) ++ part

variable {ds : List Deed} {phase : Phase} {finished : List Payload} {current : Option Payload}

/-- The pushes to one queue follow from those to all of them. -/
theorem Copied.of_attempted {part : List (String × Payload)}
    (taken : ds.filterMap (Deed.taken? r.source) = finished ++ current.toList)
    (short : part <+: current.toList.flatMap r.addressed)
    (attempted : ds.filterMap Deed.attempted? = finished.flatMap r.addressed ++ part) :
    Copied r ds finished current := by
  refine ⟨taken, ⟨part, short, attempted⟩, fun queue => ?_⟩
  refine ⟨(part.filter (·.1 == queue)).map Prod.snd, ?_, ?_⟩
  · rw [← addressed_flatMap_filter]
    exact (short.filter _).map _
  · rw [attemptsAt, attempted, List.filter_append, List.map_append, addressed_flatMap_filter]

theorem copied_of_diligent (diligent : Diligent r.consumer ds phase) :
    ∃ finished current, Copied r ds finished current ∧ (current = none ↔ phase.work? r.consumer = none) := by
  cases diligent with
  | @idle jobs _ complete free =>
    refine ⟨jobs.map Job.payload, none, .of_attempted ?_ (List.prefix_refl []) ?_, by simp [free]⟩
    · rw [Option.toList_none, List.append_nil]
      exact taken_jobs jobs _
    · rw [attempted_of_complete complete, List.append_nil]
  | @engaged jobs j _ work complete engaged course =>
    -- the last job is under way: only the first ones of its pushes have been tried
    have one : jobs.flatMap (Job.deeds r.consumer.source) ++ j.deeds r.consumer.source =
        (jobs ++ [j]).flatMap (Job.deeds r.consumer.source) := by simp
    refine ⟨jobs.map Job.payload, some j.payload,
      @Copied.of_attempted _ _ _ _ (j.events.filterMap Event.pushed?) ?_ ?_ ?_, by simp [engaged]⟩
    · rw [one]
      exact (taken_jobs _ _).trans List.map_append
    · simpa using pushed_of_leads course
    · rw [List.filterMap_append, attempted_of_complete complete, Job.attempted_deeds]

variable {s : System} {i : Nat} {c : Consumer}

/-- The answers that a world gives to the pushes of a payload. -/
def answers (w : World) (queues : List String) : List (String × Bool) :=
  queues.map fun queue => (queue, !w.refusing.contains queue)

/-- One step of a consumer that tries to push a payload. -/
def attempting (i : Nat) (p : Payload) (answered : String × Bool) : Entry :=
  .turn i (some (.did (attempt p answered)))

theorem push_answer (w : World) (queue : String) (p : Payload) :
    (w.push queue p).1 = !w.refusing.contains queue ∧ (w.push queue p).2.refusing = w.refusing := by
  unfold World.push
  split <;> simp_all

/-- Work that tries pushes goes through all of them, and is over. -/
theorem history_of_pushes {work : Activity Unit} (there : s.running[i]? = some ⟨c, .busy work⟩)
    (run : Run work ((answers s.world queues).map (attempt p)) ()) :
    History s ((answers s.world queues).map (attempting i p) ++ [.turn i none])
      { s with
        world := queues.foldl (fun w queue => (w.push queue p).2) s.world
        running := s.running.set i ⟨c, .ready⟩ } := by
  induction queues generalizing s work with
  | nil =>
    cases run
    exact .snoc .nil (.turn there rfl)
  | cons queue queues ih =>
    obtain ⟨answer, refusing⟩ := push_answer s.world queue p
    rw [answers, List.map_cons, List.map_cons, ← answer] at run
    -- a push changes the store but not which queues refuse, so the other answers stand
    cases run with
    | @push _ _ next _ _ _ run =>
      have step := Step.turn there rfl
      have here : (s.running.set i ⟨c, .busy (next (s.world.push queue p).1)⟩)[i]? =
          some ⟨c, .busy (next (s.world.push queue p).1)⟩ :=
        List.getElem?_set_self (List.getElem?_eq_some_iff.1 there).1
      have others := ih (s := { s with world := (s.world.push queue p).2, running := s.running.set i _ }) here
        (by rwa [answers, refusing])
      have all := (History.snoc .nil step).trans others
      simpa [answers, refusing, attempting, attempt, System.deed?, World.event?, answer] using all

/-- A router gets through with every payload that it took, and then looks for the next one. -/
theorem history_of_popped (there : s.running[i]? = some ⟨r.consumer, .popping (.returned (some p))⟩) :
    History s (.turn i none :: ((answers s.world (r.copies p)).map (attempting i p) ++ [.turn i none]))
      { s with
        world := (r.copies p).foldl (fun w queue => (w.push queue p).2) s.world
        running := s.running.set i ⟨r.consumer, .ready⟩ } := by
  have here : (s.running.set i ⟨r.consumer, .busy (r.consumer.handle p)⟩)[i]? =
      some ⟨r.consumer, .busy (r.consumer.handle p)⟩ :=
    List.getElem?_set_self (List.getElem?_eq_some_iff.1 there).1
  have routed : Run (r.route p) ((answers s.world (r.copies p)).map (attempt p)) _ :=
    route_run_iff.2 ⟨_, by simp [answers, Function.comp_def], rfl, rfl⟩
  have begun := History.snoc .nil (Step.turn there rfl)
  have pushed := history_of_pushes (s := { s with running := s.running.set i _ }) here (handle_run_iff.2 ⟨_, routed⟩)
  simpa [System.deed?] using begun.trans pushed

/-- **A router copies each payload exactly where it belongs.** Routing tries the queue of every destination that takes
the payload, in their order and whatever the answers are, and counts those that accepted. A payload that is no JSON
object is pushed nowhere. After every payload the router looks for the next one. In every history it has tried to
push, in all and to each queue, what the payloads that it took ask for, in the order in which it took them, and the
first part of that for the payload that it is at work on; and it stops only when it is told to. -/
theorem copied_where_it_belongs (r : Router) :
    (∀ p es n, Run (r.route p) es n ↔ ∃ answered : List (String × Bool),
        answered.map Prod.fst = r.copies p ∧ es = answered.map (attempt p) ∧ n = answered.countP Prod.snd) ∧
      (∀ p, Json.object? p = none → r.copies p = [] ∧ r.route p = .done 0) ∧
      (∀ s i p, s.running[i]? = some ⟨r.consumer, .popping (.returned (some p))⟩ →
        History s (.turn i none :: ((answers s.world (r.copies p)).map (attempting i p) ++ [.turn i none]))
          { s with
            world := (r.copies p).foldl (fun w queue => (w.push queue p).2) s.world
            running := s.running.set i ⟨r.consumer, .ready⟩ }) ∧
      ∀ s h t i, History s h t → s.running[i]? = some ⟨r.consumer, .ready⟩ →
        ∃ phase finished current, t.running[i]? = some ⟨r.consumer, phase⟩ ∧
          Copied r (deeds i h) finished current ∧ (current = none ↔ phase.work? r.consumer = none) ∧
          (phase = .stopped → t.cancelled = true) := by
  refine ⟨fun p es n => route_run_iff, ?_, fun s i p there => history_of_popped there, ?_⟩
  · intro p malformed
    exact ⟨copies_of_malformed malformed, by rw [route_eq, copies_of_malformed malformed, pushAll]⟩
  · intro s h t i history there
    obtain ⟨phase, here, diligent⟩ := history.diligent there rfl
    obtain ⟨finished, current, copied, free⟩ := copied_of_diligent diligent
    refine ⟨phase, finished, current, here, copied, free, ?_⟩
    rintro rfl
    exact history.told_of_stopped there (by simp) here rfl

/-- A router with three destinations, two of them with conditions. -/
def pickyRouter : Router where
  source := "results"
  destinations := [⟨"x", []⟩, ⟨"y", [⟨"a", "b"⟩]⟩, ⟨"x", [⟨"a", "c"⟩]⟩]

/-- A message that meets one of the conditions. -/
def goodPayload : Payload :=
  Payload.ofText "\x7b\"a\":\"b\"\x7d"

/-- No JSON object. -/
def brokenPayload : Payload :=
  Payload.ofText "[]"

/-- That router alone, where one of its queues refuses everything. -/
def picky (store : Queue.Store) (phase : Phase) : System where
  world := { store, refusing := ["x"] }
  running := [⟨pickyRouter.consumer, phase⟩]

theorem picky_turn {store store' : Queue.Store} {phase phase' : Phase} {pushed : Bool}
    (goes : System.step? false (picky store phase).world pickyRouter.consumer phase =
      some (phase', (picky store' phase').world, pushed)) :
    Step (picky store phase) (.turn 0 (System.deed? (picky store phase).world pickyRouter.consumer phase))
      (picky store' phase') :=
  @Step.turn _ 0 ⟨pickyRouter.consumer, phase⟩ _ _ _ rfl goes

theorem picky_takes {store rest : Queue.Store} {p : Payload} (found : store.take? "results" = some (p, rest)) :
    History (picky store .ready) [.turn 0 none, .turn 0 none, .turn 0 (some (.took "results" p))]
      (picky rest (.popping (.returned (some p)))) := by
  have looking : Step (picky store .ready) (.turn 0 none) (picky store (.popping (.entered 1000))) := picky_turn rfl
  have registered : Step (picky store (.popping (.entered 1000))) (.turn 0 none)
      (picky store (.popping (.registered 1000 false))) := picky_turn rfl
  have goes : System.step? false (picky store (.popping (.registered 1000 false))).world pickyRouter.consumer
      (.popping (.registered 1000 false)) = some (.popping (.returned (some p)), (picky rest .ready).world, false) := by
    simp [System.step?, Queue.Pop.step?, picky, pickyRouter, Router.consumer, found]
  have took : System.deed? (picky store .ready).world pickyRouter.consumer (.popping (.registered 1000 false)) =
      some (.took "results" p) := by
    simp [System.deed?, picky, pickyRouter, Router.consumer, found]
  exact .snoc (.snoc (.snoc .nil looking) registered) (took ▸ picky_turn goes)

/-- The router takes both payloads and is done with them: only the good one was copied, also after one of its pushes
was refused. -/
theorem picky_copied : ∃ h t, History (picky ⟨[("results", [goodPayload, brokenPayload])]⟩ .ready) h t ∧
    Copied pickyRouter (deeds 0 h) [goodPayload, brokenPayload] none ∧
    (deeds 0 h).filterMap Deed.attempted? = [("x", goodPayload), ("y", goodPayload)] ∧
    attemptsAt "x" (deeds 0 h) = [goodPayload] := by
  have good : pickyRouter.copies goodPayload = ["x", "y"] := by decide +kernel
  have broken : Json.object? brokenPayload = none := by decide +kernel
  obtain ⟨-, malformed, popped, copied⟩ := copied_where_it_belongs pickyRouter
  have nowhere := (malformed brokenPayload broken).1
  have first : History (picky ⟨[("results", [goodPayload, brokenPayload])]⟩ .ready) _
      (picky ⟨[("results", [brokenPayload])]⟩ (.popping (.returned (some goodPayload)))) := picky_takes rfl
  have routed := popped (picky ⟨[("results", [brokenPayload])]⟩ (.popping (.returned (some goodPayload)))) 0 _ rfl
  have second : History (picky ⟨[("results", [brokenPayload]), ("y", [goodPayload])]⟩ .ready) _
      (picky ⟨[("results", []), ("y", [goodPayload])]⟩ (.popping (.returned (some brokenPayload)))) := picky_takes rfl
  have passed := popped (picky ⟨[("results", []), ("y", [goodPayload])]⟩ (.popping (.returned (some brokenPayload)))) 0
    _ rfl
  rw [good] at routed
  rw [nowhere] at passed
  have history := ((first.trans routed).trans second).trans passed
  obtain ⟨phase, finished, current, here, copied, free, -⟩ := copied _ _ _ 0 history rfl
  obtain rfl : Phase.ready = phase := congrArg Running.phase (Option.some.inj here)
  obtain rfl := free.2 rfl
  obtain rfl : [goodPayload, brokenPayload] = finished := copied.taken.trans (List.append_nil _)
  obtain ⟨part, short, attempted⟩ := copied.attempted
  obtain rfl := List.prefix_nil.1 short
  have asked : (deeds 0 _).filterMap Deed.attempted? = [("x", goodPayload), ("y", goodPayload)] :=
    attempted.trans (by simp [addressed, good, nowhere])
  exact ⟨_, _, history, copied, asked, by rw [attemptsAt, asked]; rfl⟩

end Router

end Lookout
