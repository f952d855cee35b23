import Lookout.Queue.Pop
import Mathlib.Data.List.Basic

/-!
# Pops and pushes side by side

Any number of pops and pushes are at work on one store, one step at a time and in any order. A push takes two
steps: it appends its payload, and later it announces that to every pop, whatever its queue. In between other
pops may look, take what was appended, wait or give up. `no_wakeup_lost` says that no payload is overlooked
for all that: what a waiting pop has not been told is about to be announced, and a pop that returns nothing
has waited to its deadline and was told nothing since its last look.
-/

namespace Lookout.Queue
set_option autoImplicit false

/-- A pop that was called on a queue, and where it stands. -/
structure PopCall where
  queue : String
  pop : Pop

/-- A push is announced to a pop. -/
def PopCall.notify (c : PopCall) : PopCall :=
  { c with pop := c.pop.notify }

/-- Pops and pushes at work on a store. -/
structure Traffic where
  /-- Milliseconds since the beginning. -/
  now : Nat
  store : Store
  /-- The pops, in the order of their calls. -/
  pops : List PopCall := []
  /-- The queues of the pushes that have appended their payload and not yet announced it. -/
  unannounced : List String := []

/-- One step of what is going on. -/
inductive Action where
  /-- A pop is called. -/
  | call (queue : String) (wait : Nat)
  /-- The pop that was called as number `i` takes a step. -/
  | go (i : Nat)
  /-- A push appends its payload. -/
  | append (queue : String) (payload : Payload)
  /-- A push announces its payload, which completes it. -/
  | announce (queue : String)
  | drain (queue : String)
  | pass (duration : Nat)

namespace Traffic

/-- What a step does. -/
inductive Step : Traffic → Action → Traffic → Prop where
  | call (t : Traffic) (queue : String) (wait : Nat) :
      Step t (.call queue wait) { t with pops := t.pops ++ [⟨queue, .start t.now wait⟩] }
  | go {t : Traffic} {i : Nat} {c : PopCall} {pop : Pop} {store : Store} (there : t.pops[i]? = some c)
      (goes : c.pop.step? c.queue t.now t.store = some (pop, store)) :
      Step t (.go i) { t with store, pops := t.pops.set i { c with pop } }
  | append (t : Traffic) (queue : String) (payload : Payload) :
      Step t (.append queue payload)
        { t with store := t.store.push queue payload, unannounced := queue :: t.unannounced }
  | announce {t : Traffic} {queue : String} (due : queue ∈ t.unannounced) :
      Step t (.announce queue)
        { t with pops := t.pops.map PopCall.notify, unannounced := t.unannounced.erase queue }
  | drain (t : Traffic) (queue : String) : Step t (.drain queue) { t with store := (t.store.drain queue).2 }
  | pass (t : Traffic) (duration : Nat) : Step t (.pass duration) { t with now := t.now + duration }

/-- Steps one after the other. -/
inductive Run (t : Traffic) : List Action → Traffic → Prop where
  | nil : Run t [] t
  | snoc {as : List Action} {u v : Traffic} {a : Action} : Run t as u → Step u a v → Run t (as ++ [a]) v

theorem Run.trans {t u v : Traffic} {as bs : List Action} (first : Run t as u) (rest : Run u bs v) :
    Run t (as ++ bs) v := by
  induction rest with
  | nil => rwa [List.append_nil]
  | snoc _ step ih =>
    rw [← List.append_assoc]
    exact .snoc ih step

/-- A state that pops and pushes can lead to from one in which there were none. -/
def Reachable (t : Traffic) : Prop :=
  ∃ start as, start.pops = [] ∧ start.unannounced = [] ∧ Run start as t

/-- No pop waits for something that is there, unless it is about to be announced. -/
def NoneMissed (t : Traffic) : Prop :=
  ∀ c ∈ t.pops, ∀ d, c.pop = .waiting d false → t.store.held c.queue ≠ [] → c.queue ∈ t.unannounced

theorem Step.noneMissed {t u : Traffic} {a : Action} (step : Step t a u) (before : NoneMissed t) :
    NoneMissed u := by
  intro c mem d waits holds
  cases step with
  | call queue wait =>
    rcases List.mem_append.1 mem with old | new
    · exact before c old d waits holds
    · rw [List.mem_singleton.1 new] at waits
      cases waits
  | @go i c' pop store there goes =>
    have goes := Pop.step?_eq_some_iff.1 goes
    rcases List.mem_or_eq_of_mem_set mem with old | rfl
    · refine before c old d waits fun empty => holds ?_
      rcases goes.held c.queue with same | ⟨p, -, more⟩
      · rw [← same, empty]
      · rw [empty] at more
        cases more
    · -- it waits because its look found nothing
      generalize c'.pop = before at goes
      cases goes with
      | miss nothing => exact absurd nothing holds
      | register | take | wake | giveUp => cases waits
  | append queue payload =>
    by_cases same : c.queue = queue
    · rw [same]
      exact List.mem_cons_self
    · rw [Store.held_push, if_neg same] at holds
      exact List.mem_cons_of_mem _ (before c mem d waits holds)
  | announce due =>
    obtain ⟨c', -, rfl⟩ := List.mem_map.1 mem
    simp only [PopCall.notify] at waits
    cases h : c'.pop <;> simp [h, Pop.notify] at waits
  | drain queue =>
    refine before c mem d waits fun empty => holds ?_
    simp only [Store.drain, Store.held_set, empty, ite_self]
  | pass duration => exact before c mem d waits holds

theorem Run.noneMissed {t u : Traffic} {as : List Action} (run : Run t as u) (start : NoneMissed t) :
    NoneMissed u := by
  induction run with
  | nil => exact start
  | snoc _ step ih => exact step.noneMissed ih

theorem Reachable.noneMissed {t : Traffic} (reach : Reachable t) : NoneMissed t := by
  obtain ⟨start, as, noPops, -, run⟩ := reach
  refine run.noneMissed ?_
  intro c mem
  rw [noPops] at mem
  cases mem

/-- The last look of pop number `i` found its queue empty, and no push was completed since. -/
def LookedInVain (queue : String) (i : Nat) (called : Traffic) (as : List Action) (t : Traffic) : Prop :=
  ∃ earlier later before found, as = earlier ++ .go i :: later ∧ Run called earlier before ∧
    (∃ d notified, before.pops[i]? = some ⟨queue, .registered d notified⟩) ∧ before.store.held queue = [] ∧
    Step before (.go i) found ∧ Run found later t ∧ .go i ∉ later ∧ ∀ q, .announce q ∉ later

/-- A step of something else, by which no push is completed. -/
theorem LookedInVain.snoc {queue : String} {i : Nat} {called t u : Traffic} {as : List Action} {a : Action}
    (h : LookedInVain queue i called as t) (step : Step t a u) (other : a ≠ .go i)
    (silent : ∀ q, a ≠ .announce q) : LookedInVain queue i called (as ++ [a]) u := by
  obtain ⟨earlier, later, before, found, rfl, first, pop, empty, look, rest, last, quiet⟩ := h
  refine ⟨earlier, later ++ [a], before, found, by simp, first, pop, empty, look, .snoc rest step, ?_, ?_⟩
  · simp [last, other.symm]
  · intro q
    simp [quiet q, (silent q).symm]

/-- Where a pop stands that has this deadline. -/
inductive Course (queue : String) (i deadline : Nat) (called : Traffic) (as : List Action) (t : Traffic) :
    Pop → Prop where
  | entered : Course queue i deadline called as t (.entered deadline)
  | registered (notified : Bool) : Course queue i deadline called as t (.registered deadline notified)
  | waiting (notified : Bool) (looked : notified = false → LookedInVain queue i called as t) :
      Course queue i deadline called as t (.waiting deadline notified)
  | returned (p : Option Payload) : Course queue i deadline called as t (.returned p)

/-- A step of something else leaves the pop where it is. -/
theorem Course.snoc {queue : String} {i deadline : Nat} {called t u : Traffic} {as : List Action} {a : Action}
    {pop : Pop} (h : Course queue i deadline called as t pop) (step : Step t a u) (other : a ≠ .go i)
    (silent : ∀ q, a ≠ .announce q) : Course queue i deadline called (as ++ [a]) u pop := by
  cases h with
  | entered => exact .entered
  | registered notified => exact .registered notified
  | waiting notified looked => exact .waiting notified fun empty => (looked empty).snoc step other silent
  | returned p => exact .returned p

/-- A completed push notifies the pop. -/
theorem Course.notify {queue : String} {i deadline : Nat} {called t u : Traffic} {as as' : List Action}
    {pop : Pop} (h : Course queue i deadline called as t pop) :
    Course queue i deadline called as' u pop.notify := by
  cases h with
  | entered => exact .entered
  | registered => exact .registered true
  | waiting => exact .waiting true (by simp)
  | returned p => exact .returned p

/-- The pop itself takes a step. -/
theorem Course.go {queue : String} {i deadline : Nat} {called t u : Traffic} {as : List Action} {pop pop' : Pop}
    {store : Store} (h : Course queue i deadline called as t pop) (run : Run called as t)
    (there : t.pops[i]? = some ⟨queue, pop⟩) (goes : Pop.Goes queue t.now t.store pop pop' store)
    (step : Step t (.go i) u) : Course queue i deadline called (as ++ [.go i]) u pop' := by
  cases goes with
  | register d =>
    cases h
    exact .registered false
  | take => exact .returned _
  | miss nothing =>
    cases h
    refine .waiting _ fun _ => ?_
    exact ⟨as, [], t, u, rfl, run, ⟨_, _, there⟩, nothing, step, .nil, by simp, by simp⟩
  | wake d =>
    cases h
    exact .entered
  | giveUp => exact .returned none

/-- The pop that is called keeps its queue and its deadline through all that follows. -/
theorem Run.course {queue : String} {deadline : Nat} {called t : Traffic} {i : Nat} {as : List Action}
    (start : called.pops[i]? = some ⟨queue, .entered deadline⟩) (run : Run called as t) :
    ∃ pop, t.pops[i]? = some ⟨queue, pop⟩ ∧ Course queue i deadline called as t pop := by
  induction run with
  | nil => exact ⟨_, start, .entered⟩
  | @snoc as t u a run step ih =>
    obtain ⟨pop, there, course⟩ := ih
    have before := step
    cases step with
    | call q wait =>
      refine ⟨pop, ?_, course.snoc before (by simp) (by simp)⟩
      rw [List.getElem?_append_left (List.getElem?_eq_some_iff.1 there).1, there]
    | @go j c pop' store own goes =>
      by_cases same : j = i
      · subst same
        obtain rfl := Option.some.inj (own.symm.trans there)
        refine ⟨pop', ?_, course.go run there (Pop.step?_eq_some_iff.1 goes) before⟩
        rw [List.getElem?_set_self (List.getElem?_eq_some_iff.1 there).1]
      · refine ⟨pop, ?_, course.snoc before (by simpa using same) (by simp)⟩
        rw [List.getElem?_set_ne same, there]
    | append q payload => exact ⟨pop, there, course.snoc before (by simp) (by simp)⟩
    | announce due => exact ⟨pop.notify, by simp [there, PopCall.notify], course.notify⟩
    | drain q => exact ⟨pop, there, course.snoc before (by simp) (by simp)⟩
    | pass duration => exact ⟨pop, there, course.snoc before (by simp) (by simp)⟩

/-- **No wake-up is lost.** A payload for which a pop waits without having been told is about to be announced. So
a pop returns nothing only when the time that it was given is over, after a last look that found its queue empty
and since which no push was completed. -/
theorem no_wakeup_lost :
    (∀ t, Reachable t → ∀ c ∈ t.pops, ∀ d, c.pop = .waiting d false → t.store.held c.queue ≠ [] →
        c.queue ∈ t.unannounced) ∧
      ∀ before called after ended queue wait as, Step before (.call queue wait) called →
        Run called as after → Step after (.go before.pops.length) ended →
        ended.pops[before.pops.length]? = some ⟨queue, .returned none⟩ →
        (∃ r, after.pops[before.pops.length]? = some ⟨queue, r⟩ ∧ r ≠ .returned none) ∧
          before.now + wait ≤ after.now ∧ LookedInVain queue before.pops.length called as after := by
  refine ⟨fun t reach => reach.noneMissed, ?_⟩
  intro before called after ended queue wait as call run last result
  have start : called.pops[before.pops.length]? = some ⟨queue, .entered (before.now + wait)⟩ := by
    cases call
    simp [Pop.start]
  obtain ⟨pop, there, course⟩ := run.course start
  cases last with
  | @go i c pop' store own goes =>
    obtain rfl := Option.some.inj (own.symm.trans there)
    rw [List.getElem?_set_self (List.getElem?_eq_some_iff.1 there).1] at result
    obtain rfl : pop' = .returned none := by simpa using result
    have goes := Pop.step?_eq_some_iff.1 goes
    cases goes with
    | giveUp late =>
      cases course with
      | waiting _ looked => exact ⟨⟨_, there, by simp⟩, late, looked rfl⟩

/-- Nothing is going on. -/
def quiet : Traffic where
  now := 0
  store := {}

/-- A pop on `jobs` that may wait for five milliseconds. -/
def popping (now : Nat) (pop : Pop) : Traffic where
  now := now
  store := {}
  pops := [⟨"jobs", pop⟩]

/-- The pop registers and looks. -/
theorem run_popping : Run (popping 0 (.entered 5)) [.go 0, .go 0] (popping 0 (.waiting 5 false)) := by
  have register : Step (popping 0 (.entered 5)) (.go 0) (popping 0 (.registered 5 false)) :=
    @Step.go _ 0 ⟨"jobs", .entered 5⟩ _ {} rfl rfl
  have look : Step (popping 0 (.registered 5 false)) (.go 0) (popping 0 (.waiting 5 false)) :=
    @Step.go _ 0 ⟨"jobs", .registered 5 false⟩ _ {} rfl rfl
  exact .snoc (.snoc .nil register) look

/-- A push has appended while the pop waits. -/
def appended : Traffic :=
  { popping 0 (.waiting 5 false) with store := Store.push {} "jobs" [], unannounced := ["jobs"] }

theorem appended_reachable : Reachable appended := by
  have call : Run quiet [.call "jobs" 5] (popping 0 (.entered 5)) := .snoc .nil (.call quiet "jobs" 5)
  exact ⟨quiet, _, rfl, rfl, .snoc (call.trans run_popping) (.append _ "jobs" [])⟩

/-- What was appended while the pop waits is about to be announced; a pop that is left alone has waited for its
five milliseconds. -/
theorem popping_not_overlooked :
    (appended.store.held "jobs" ≠ [] ∧ "jobs" ∈ appended.unannounced) ∧
      quiet.now + 5 ≤ (popping 5 (.waiting 5 false)).now ∧
        LookedInVain "jobs" 0 (popping 0 (.entered 5)) [.go 0, .go 0, .pass 5] (popping 5 (.waiting 5 false)) := by
  constructor
  · have held : appended.store.held "jobs" ≠ [] := by decide
    exact ⟨held, no_wakeup_lost.1 appended appended_reachable ⟨"jobs", .waiting 5 false⟩ (.head _) 5 rfl held⟩
  · have call : Step quiet (.call "jobs" 5) (popping 0 (.entered 5)) := .call quiet "jobs" 5
    have late : Run (popping 0 (.entered 5)) [.go 0, .go 0, .pass 5] (popping 5 (.waiting 5 false)) :=
      .snoc run_popping (.pass _ 5)
    have last : Step (popping 5 (.waiting 5 false)) (.go 0) (popping 5 (.returned none)) :=
      @Step.go _ 0 ⟨"jobs", .waiting 5 false⟩ _ {} rfl rfl
    exact (no_wakeup_lost.2 quiet _ _ _ "jobs" 5 _ call late last rfl).2

end Traffic

end Lookout.Queue
