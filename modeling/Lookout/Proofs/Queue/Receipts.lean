import Lookout.Proofs.Queue.Traffic

/-!
# Who gets what

A pop that finds a payload hands it to its caller, and a drain hands over all that there is. A ledger is a run with
the receipts for that, in their order. `first_in_first_out` says that a queue of any name is a line of its own: what
was handed out, and then what is still there, are the payloads that were pushed, in the order in which they were
pushed. A pop has a receipt for the payload that it returned, and no other.
-/

namespace Lookout.Queue
set_option autoImplicit false

/-- The payload that a pop returned. -/
def PopCall.payload? (c : PopCall) : Option Payload :=
  match c.pop with
  | .returned p => p
  | _ => none

/-- A payload that was handed to a caller. -/
structure Receipt where
  /-- The number of the pop that returned it; none if it was drained. -/
  pop? : Option Nat
  queue : String
  payload : Payload
deriving DecidableEq

/-- What an action appends to a queue. -/
def Action.appended? (queue : String) : Action → Option Payload
  | .append q p => if q = queue then some p else none
  | _ => none

namespace Traffic

/-- What the pop of this number has returned. -/
def receipt? (t : Traffic) (i : Nat) : Option Receipt :=
  t.pops[i]?.bind fun c => c.payload?.map (⟨some i, c.queue, ·⟩)

/-- What the callers are handed when an action leads from `t` to `u`. -/
def receipts (t : Traffic) (a : Action) (u : Traffic) : List Receipt :=
  match a with
  | .go i => (u.receipt? i).toList
  | .drain queue => (t.store.drain queue).1.map (⟨none, queue, ·⟩)
  | .call _ _ | .append _ _ | .announce _ | .pass _ => []

/-- Steps one after the other, with all that is handed out. -/
inductive Ledger (t : Traffic) : List Action → List Receipt → Traffic → Prop where
  | nil : Ledger t [] [] t
  | snoc {as : List Action} {rs : List Receipt} {u v : Traffic} {a : Action} : Ledger t as rs u → Step u a v →
      Ledger t (as ++ [a]) (rs ++ receipts u a v) v

/-- The payloads of a queue that were handed out. -/
def handed (queue : String) (rs : List Receipt) : List Payload :=
  (rs.filter (·.queue == queue)).map Receipt.payload

variable {t u : Traffic} {a : Action} {as : List Action} {rs : List Receipt}

/-- Every run has its ledger. -/
theorem Run.exists_ledger (run : Run t as u) : ∃ rs, Ledger t as rs u := by
  induction run with
  | nil => exact ⟨[], .nil⟩
  | snoc _ step ih =>
    obtain ⟨rs, ledger⟩ := ih
    exact ⟨_, ledger.snoc step⟩

theorem handed_append (queue : String) (rs rs' : List Receipt) :
    handed queue (rs ++ rs') = handed queue rs ++ handed queue rs' := by
  simp [handed]

/-- A step of a pop hands out what it takes off its queue. -/
theorem handed_of_goes {c : PopCall} {pop : Pop} {store : Store} {i : Nat} (there : t.pops[i]? = some c)
    (goes : Pop.Goes c.queue t.now t.store c.pop pop store) (queue : String) :
    t.store.held queue =
      handed queue (receipts t (.go i) { t with store, pops := t.pops.set i { c with pop } }) ++ store.held queue := by
  have here : (t.pops.set i { c with pop })[i]? = some { c with pop } :=
    List.getElem?_set_self (List.getElem?_eq_some_iff.1 there).1
  simp only [receipts, receipt?, here, Option.bind_some]
  obtain ⟨q, before⟩ := c
  cases goes with
  | take found =>
    obtain ⟨own, others⟩ := Store.take?_eq_some found
    by_cases same : q = queue
    · subst same
      simp [handed, PopCall.payload?, own]
    · simp [handed, PopCall.payload?, same, others queue (Ne.symm same)]
  | register | miss | wake | giveUp => simp [handed, PopCall.payload?]

/-- What a queue held before a step and was pushed by it has been handed out or is still there. -/
theorem Step.handed (step : Step t a u) (queue : String) :
    t.store.held queue ++ (a.appended? queue).toList = handed queue (receipts t a u) ++ u.store.held queue := by
  cases step with
  | go there goes =>
    simpa [Action.appended?] using handed_of_goes there (Pop.step?_eq_some_iff.1 goes) queue
  | append q payload =>
    by_cases same : q = queue
    · simp [Action.appended?, receipts, Traffic.handed, Store.held_push, same]
    · simp [Action.appended?, receipts, Traffic.handed, Store.held_push, same, Ne.symm same]
  | drain q =>
    by_cases same : q = queue
    · simp [Action.appended?, receipts, Traffic.handed, Store.drain, same, List.filter_map, Function.comp_def]
    · simp [Action.appended?, receipts, Traffic.handed, Store.drain, same, Ne.symm same, List.filter_map,
        Function.comp_def]
  | call | announce | pass => simp [Action.appended?, receipts, Traffic.handed]

theorem Ledger.handed (ledger : Ledger t as rs u) (queue : String) :
    t.store.held queue ++ as.filterMap (Action.appended? queue) = handed queue rs ++ u.store.held queue := by
  induction ledger with
  | nil => simp [Traffic.handed]
  | @snoc as rs u v a _ step ih =>
    have last : [a].filterMap (Action.appended? queue) = (a.appended? queue).toList := by
      cases appended : a.appended? queue <;> simp [appended]
    rw [List.filterMap_append, last, ← List.append_assoc, ih, handed_append, List.append_assoc, List.append_assoc,
      step.handed queue]

theorem pop?_of_receipt? {i : Nat} {r : Receipt} (mem : r ∈ (t.receipt? i).toList) : r.pop? = some i := by
  obtain ⟨c, -, made⟩ := Option.bind_eq_some_iff.1 (Option.mem_toList.1 mem)
  obtain ⟨p, -, rfl⟩ := Option.map_eq_some_iff.1 made
  rfl

/-- The receipts of a pop before and after a step. -/
theorem Step.receipt? (step : Step t a u) (i : Nat) :
    (t.receipt? i).toList ++ (receipts t a u).filter (·.pop? == some i) = (u.receipt? i).toList := by
  cases step with
  | call queue wait =>
    rcases Nat.lt_trichotomy i t.pops.length with old | rfl | new
    · simp [receipts, Traffic.receipt?, List.getElem?_append_left old]
    · simp [receipts, Traffic.receipt?, Pop.start, PopCall.payload?]
    · have unborn : (t.pops ++ [⟨queue, .start t.now wait⟩])[i]? = none :=
        List.getElem?_eq_none (by simp only [List.length_append, List.length_singleton]; omega)
      simp [receipts, Traffic.receipt?, unborn, List.getElem?_eq_none (Nat.le_of_lt new)]
  | @go j c pop store there goes =>
    have goes := Pop.step?_eq_some_iff.1 goes
    by_cases same : j = i
    · subst same
      -- a pop that takes a step has not returned anything yet
      have fresh : t.receipt? j = none := by
        obtain ⟨q, before⟩ := c
        cases goes <;> simp [Traffic.receipt?, there, PopCall.payload?]
      rw [fresh, receipts, List.filter_eq_self.2 fun r mem => by simp [pop?_of_receipt? mem]]
      rfl
    · rw [receipts, List.filter_eq_nil_iff.2 fun r mem => by simp [pop?_of_receipt? mem, same]]
      simp [Traffic.receipt?, List.getElem?_set_ne same]
  | announce due =>
    simp only [receipts, List.filter_nil, List.append_nil, Traffic.receipt?, List.getElem?_map]
    cases t.pops[i]? with
    | none => rfl
    | some c =>
      obtain ⟨q, pop⟩ := c
      cases pop <;> rfl
  | drain queue => simp [receipts, Traffic.receipt?, List.filter_map, Function.comp_def]
  | append | pass => simp [receipts, Traffic.receipt?]

theorem Ledger.receipt? (ledger : Ledger t as rs u) (start : t.pops = []) (i : Nat) :
    rs.filter (·.pop? == some i) = (u.receipt? i).toList := by
  induction ledger with
  | nil => simp [Traffic.receipt?, start]
  | snoc _ step ih => rw [List.filter_append, ih, step.receipt? i]

/-- **A queue of any name is first in, first out**, and loses nothing: whatever pops, pushes and drains on
whatever queues are at work side by side, what was handed out and then what is still there are what it held at first
and what was pushed, in order. Its size is the number of those still there. What a pop returned it was handed
once, and nothing else was. -/
theorem first_in_first_out (start : t.pops = []) (ledger : Ledger t as rs u) :
    (∀ queue, t.store.held queue ++ as.filterMap (Action.appended? queue) = handed queue rs ++ u.store.held queue ∧
        u.store.size queue = (u.store.held queue).length ∧
        (u.store.isEmpty queue = true ↔ u.store.held queue = [])) ∧
      ∀ i, rs.filter (·.pop? == some i) = (u.receipt? i).toList :=
  ⟨fun queue => ⟨ledger.handed queue, Store.size_eq _ _, Store.isEmpty_iff⟩, fun i => ledger.receipt? start i⟩

/-- One payload comes for each of two queues, and then another for the first, from which a pop takes one before it is
drained. -/
def mixed : List Action :=
  [.append "jobs" [1], .append "other" [2], .append "jobs" [3], .call "jobs" 5, .go 0, .go 0, .drain "jobs"]

theorem ledger_mixed : ∃ t, Ledger quiet mixed [⟨some 0, "jobs", [1]⟩, ⟨none, "jobs", [3]⟩] t ∧
    t.store.held "other" = [[2]] := by
  have one : Ledger quiet _ _ _ := .snoc .nil (.append quiet "jobs" [1])
  have three := Ledger.snoc (one.snoc (.append _ "other" [2])) (.append _ "jobs" [3])
  have called := three.snoc (.call _ "jobs" 5)
  have registered := called.snoc (@Step.go _ 0 ⟨"jobs", .entered 5⟩ _ _ rfl rfl)
  have taken := registered.snoc (@Step.go _ 0 ⟨"jobs", .registered 5 false⟩ _ _ rfl rfl)
  exact ⟨_, taken.snoc (.drain _ "jobs"), rfl⟩

/-- The pop got the first payload of its queue and the drain the other one. -/
theorem handed_in_order : ∃ t rs, Ledger quiet mixed rs t ∧
    [[1], [3]] = handed "jobs" rs ++ t.store.held "jobs" ∧ [[2]] = handed "other" rs ++ t.store.held "other" ∧
      t.store.size "other" = 1 ∧ (t.receipt? 0).toList = [⟨some 0, "jobs", [1]⟩] := by
  obtain ⟨t, ledger, other⟩ := ledger_mixed
  obtain ⟨queues, pops⟩ := first_in_first_out rfl ledger
  refine ⟨t, _, ledger, (queues "jobs").1, (queues "other").1, ?_, (pops 0).symm⟩
  rw [(queues "other").2.1, other]
  rfl

end Traffic

end Lookout.Queue
