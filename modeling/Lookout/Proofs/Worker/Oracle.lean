import Lookout.Proofs.Worker.Execution
import Mathlib.Tactic.ByContra

/-!
# Messages that are fixed beforehand

Where the answer to a lookup depends on the host alone, and that of a probe on the test, the target and the
number of the attempt, the messages of a test are fixed but for their times, whoever runs it and whenever.
-/

namespace Lookout
set_option autoImplicit false
open Activity

/-- Answers that are fixed beforehand. -/
structure Oracle where
  lookup : String → Option (List Address)
  /-- How the attempt of this number goes. The first one is number one. -/
  outcome : Test → String → Nat → Option String

/-- Whether an event is a call for a test against a target. -/
def Event.isCall (t : Test) (target : String) : Event → Bool
  | .call c _ => c.test == t && c.target == target
  | _ => false

/-- The message without its time. -/
def ResultMessage.untimed (m : ResultMessage) : ResultMessage :=
  { m with time := 0 }

namespace Oracle

variable {o : Oracle} {past es es' : List Event}

/-- The number of the next attempt after some events. -/
def attempt (past : List Event) (t : Test) (target : String) : Nat :=
  past.countP (Event.isCall t target) + 1

/-- An event after others has the answer of the oracle. -/
def Answers (o : Oracle) (past : List Event) : Event → Prop
  | .lookup host found => found = o.lookup host
  | .call c failure => failure = o.outcome c.test c.target (attempt past c.test c.target)
  | _ => True

/-- All events after the past ones have the answers of the oracle. -/
def Obeyed (o : Oracle) : List Event → List Event → Prop
  | _, [] => True
  | past, e :: es => o.Answers past e ∧ Obeyed o (past ++ [e]) es

theorem obeyed_append_iff : o.Obeyed past (es ++ es') ↔ o.Obeyed past es ∧ o.Obeyed (past ++ es) es' := by
  induction es generalizing past with
  | nil => simp [Obeyed]
  | cons e es ih => simp [Obeyed, ih, and_assoc]

/-- Where the oracle answers, it is midnight, and every push is accepted. -/
def environment (o : Oracle) : Environment where
  lookup _ host := o.lookup host
  call past c := o.outcome c.test c.target (attempt past c.test c.target)
  time _ := 0
  push _ _ _ := true

theorem obeyed_play {α : Type} (past : List Event) (a : Activity α) :
    o.Obeyed past (play o.environment past a).1 := by
  induction a generalizing past with
  | done r => trivial
  | lookup host next ih => exact ⟨rfl, ih _ _⟩
  | call c next ih => exact ⟨rfl, ih _ _⟩
  | wait duration next ih => exact ⟨trivial, ih _ _⟩
  | time next ih => exact ⟨trivial, ih _ _⟩
  | push queue payload next ih => exact ⟨trivial, ih _ _⟩

end Oracle

/-- The attempts of a visit go as `outcome` says. -/
structure Visit.Follows {limit : Nat} (v : Visit limit) (outcome : Nat → Option String) : Prop where
  failures : ∀ k f, v.failures[k]? = some f → outcome (k + 1) = some f
  last : outcome (v.failures.length + 1) = v.last?

/-- There is no fewer attempts than it takes to pass or to use up all. -/
theorem Visit.Follows.length_le {limit : Nat} {v v' : Visit limit} {outcome : Nat → Option String}
    (h : v.Follows outcome) (h' : v'.Follows outcome) : v'.failures.length ≤ v.failures.length := by
  by_contra shorter
  have failed : outcome (v.failures.length + 1) = some v'.failures[v.failures.length] :=
    h'.failures _ _ (List.getElem?_eq_getElem (by omega))
  have spent := v.spent (by rw [← h.last, failed]; rfl)
  have within := v'.within
  omega

/-- There is only one way in which a visit can follow the outcomes. -/
theorem Visit.Follows.unique {limit : Nat} {v v' : Visit limit} {outcome : Nat → Option String}
    (h : v.Follows outcome) (h' : v'.Follows outcome) : v.failures = v'.failures ∧ v.last? = v'.last? := by
  have same : v.failures.length = v'.failures.length := Nat.le_antisymm (h'.length_le h) (h.length_le h')
  refine ⟨?_, by rw [← h.last, ← h'.last, same]⟩
  refine List.ext_getElem same fun k short short' => ?_
  have first := h.failures k _ (List.getElem?_eq_getElem short)
  have second := h'.failures k _ (List.getElem?_eq_getElem short')
  exact Option.some.inj (first.symm.trans second)

namespace Worker

variable {o : Oracle} {w w' : Worker} {t : Test} {past past' es es' : List Event}

/-- Attempts that obey the oracle, of which some have been made before. -/
theorem outcomes_of_obeyed {c : Call} {delay n : Nat} {failures : List String} {last? : Option String}
    (before : past.countP (Event.isCall c.test c.target) = n)
    (obeyed : o.Obeyed past (attempted c delay failures last?)) :
    (∀ k f, failures[k]? = some f → o.outcome c.test c.target (n + k + 1) = some f) ∧
      o.outcome c.test c.target (n + failures.length + 1) = last? := by
  induction failures generalizing past n with
  | nil =>
    obtain ⟨answer, -⟩ := obeyed
    refine ⟨by simp, ?_⟩
    rw [← before]
    exact answer.symm
  | cons f failures ih =>
    have split : attempted c delay (f :: failures) last? =
        [.call c (some f), .wait delay] ++ attempted c delay failures last? := attempted_cons ..
    rw [split, Oracle.obeyed_append_iff] at obeyed
    obtain ⟨⟨answer, -⟩, rest⟩ := obeyed
    have next : (past ++ [Event.call c (some f), .wait delay]).countP (Event.isCall c.test c.target) = n + 1 := by
      simp [List.countP_append, Event.isCall, before]
    obtain ⟨others, last⟩ := ih next rest
    refine ⟨?_, ?_⟩
    · intro k g listed
      cases k with
      | zero =>
        obtain rfl : f = g := by simpa using listed
        rw [← before]
        exact answer.symm
      | succ k =>
        rw [← others k g (by simpa using listed)]
        congr 1
        omega
    · rw [← last, List.length_cons]
      congr 1
      omega

/-- A first visit that obeys the oracle. -/
theorem follows_of_obeyed {limit : Nat} {v : Visit limit} (fresh : past.countP (Event.isCall t v.target) = 0)
    (obeyed : o.Obeyed past (v.events w t)) : v.Follows (o.outcome t v.target) := by
  rw [Visit.events, Oracle.obeyed_append_iff] at obeyed
  obtain ⟨failures, last⟩ := outcomes_of_obeyed (c := w.callOf t v.target) fresh obeyed.1
  exact ⟨by simpa [callOf] using failures, by simpa [callOf] using last⟩

/-- A visit calls the probe against no other target. -/
theorem countP_events {limit : Nat} {v : Visit limit} {target : String} (other : v.target ≠ target) :
    (v.events w t).countP (Event.isCall t target) = 0 := by
  rw [List.countP_eq_zero]
  intro e mem
  simp only [Visit.events, attempted, reported, List.mem_append, List.mem_flatMap, List.mem_cons,
    List.not_mem_nil, or_false] at mem
  rcases mem with (⟨f, -, rfl | rfl⟩ | rfl) | rfl | rfl <;> simp [Event.isCall, callOf, other]

/-- Visits of the same targets that obey the same oracle. -/
theorem visits_untimed_eq {limit limit' : Nat} (attempts : limit = limit') {visits : List (Visit limit)}
    {visits' : List (Visit limit')} (targets : visits.map Visit.target = visits'.map Visit.target)
    (nodup : (visits.map Visit.target).Nodup)
    (fresh : ∀ target ∈ visits.map Visit.target, past.countP (Event.isCall t target) = 0)
    (fresh' : ∀ target ∈ visits'.map Visit.target, past'.countP (Event.isCall t target) = 0)
    (obeyed : o.Obeyed past (visits.flatMap (Visit.events w t)))
    (obeyed' : o.Obeyed past' (visits'.flatMap (Visit.events w' t))) :
    visits.map (fun v => (v.message t).untimed) = visits'.map (fun v => (v.message t).untimed) := by
  subst attempts
  induction visits generalizing visits' past past' with
  | nil =>
    obtain rfl : visits' = [] := List.map_eq_nil_iff.1 targets.symm
    rfl
  | cons v visits ih =>
    cases visits' with
    | nil => cases targets
    | cons v' visits' =>
      obtain ⟨target, targets⟩ := List.cons.inj targets
      obtain ⟨new, nodup⟩ := List.nodup_cons.1 nodup
      rw [List.flatMap_cons, Oracle.obeyed_append_iff] at obeyed obeyed'
      have here := follows_of_obeyed (fresh v.target (by simp)) obeyed.1
      have here' := follows_of_obeyed (fresh' v'.target (by simp)) obeyed'.1
      rw [← target] at here'
      obtain ⟨-, last⟩ := here.unique here'
      -- no target comes twice, so the attempts against the next ones are counted from one again
      have later : ∀ k ∈ visits.map Visit.target, (past ++ v.events w t).countP (Event.isCall t k) = 0 := by
        intro k mem
        have other : v.target ≠ k := fun e => new (e ▸ mem)
        rw [List.countP_append, fresh k (List.mem_cons_of_mem _ mem), countP_events other]
      have later' : ∀ k ∈ visits'.map Visit.target, (past' ++ v'.events w' t).countP (Event.isCall t k) = 0 := by
        intro k mem
        have other : v'.target ≠ k := fun e => new (target ▸ e ▸ targets ▸ mem)
        rw [List.countP_append, fresh' k (List.mem_cons_of_mem _ mem), countP_events other]
      rw [List.map_cons, List.map_cons, ih nodup later obeyed.2 targets later' obeyed'.2]
      simp [Visit.message, Test.message, ResultMessage.untimed, target, last]

/-- Workers that know the same probes, probe the same addresses and make as many attempts. -/
structure Alike (w w' : Worker) : Prop where
  registry : w.registry = w'.registry
  families : w.families = w'.families
  attempts : w.settings.retry.maxAttempts = w'.settings.retry.maxAttempts

theorem Located.unique {found found' : Except ResolveError (List String)} (alike : Alike w w')
    (h : Located w t es found) (h' : Located w' t es' found') (obeyed : o.Obeyed past es)
    (obeyed' : o.Obeyed past' es') : found = found' := by
  rcases h with failed | ⟨answer, named⟩ <;> rcases h' with failed' | ⟨answer', named'⟩
  · exact congrArg _ (Except.error.inj (failed.symm.trans failed'))
  · cases failed.symm.trans named'
  · cases named.symm.trans failed'
  · obtain rfl := Except.ok.inj (named.symm.trans named')
    rw [show answer = _ from obeyed.1, show answer' = _ from obeyed'.1, alike.families]

theorem Visited.unique {p : Probe} {targets targets' : List String} (alike : Alike w w')
    (h : Visited w t p es targets) (h' : Visited w' t p es' targets') (obeyed : o.Obeyed past es)
    (obeyed' : o.Obeyed past' es') : targets = targets' := by
  rcases h with given | ⟨resolves, located⟩ <;> rcases h' with given' | ⟨resolves', located'⟩
  · rfl
  · cases given.symm.trans resolves'
  · cases resolves.symm.trans given'
  · exact Except.ok.inj (located.unique alike located' obeyed obeyed')

theorem Visited.nodup {p : Probe} {targets : List String} (h : Visited w t p es targets) : targets.Nodup := by
  rcases h with given | ⟨resolves, located⟩
  · simp
  · generalize same : Except.ok targets = found at located
    rcases located with failed | ⟨answer, named⟩
    · cases same
    · cases answer with
      | none => cases same
      | some found =>
        obtain rfl := Except.ok.inj same
        exact nodup_distinct _

/-- No probe is called before the targets are known. -/
theorem Visited.countP {p : Probe} {targets : List String} (h : Visited w t p es targets) (target : String) :
    es.countP (Event.isCall t target) = 0 := by
  rcases h with given | ⟨resolves, located⟩
  · rfl
  · generalize Except.ok targets = found at located
    rcases located with failed | ⟨answer, named⟩ <;> rfl

/-- A target that is resolved for one of the workers is resolved for the other. -/
theorem Visited.not_located {p : Probe} {targets : List String} {e : ResolveError} (alike : Alike w w')
    (resolves : p.resolves = true) (h : Visited w t p es targets) (failed : Located w' t es' (.error e))
    (obeyed : o.Obeyed past es) (obeyed' : o.Obeyed past' es') : False := by
  cases h with
  | asGiven given => cases given.symm.trans resolves
  | found _ located => cases located.unique alike failed obeyed obeyed'

theorem Alike.symm (alike : Alike w w') : Alike w' w :=
  ⟨alike.registry.symm, alike.families.symm, alike.attempts.symm⟩

/-- **The messages of a test are fixed** by the oracle but for their times. -/
theorem Executed.untimed_eq {ms ms' : List ResultMessage} (alike : Alike w w') (h : Executed w t es ms)
    (h' : Executed w' t es' ms') (obeyed : o.Obeyed [] es) (obeyed' : o.Obeyed [] es') :
    ms.map ResultMessage.untimed = ms'.map ResultMessage.untimed := by
  have agree : ∀ {p p'}, w.registry.get? t.kind = p → w'.registry.get? t.kind = p' → p = p' := by
    intro p p' known known'
    rw [← known, ← known', alike.registry]
  cases h with
  | unknown known =>
    cases h' with
    | unknown => rfl
    | unresolved _ _ known' => cases agree known known'
    | visited _ known' => cases agree known known'
  | unresolved now accepted known resolves located =>
    rw [Oracle.obeyed_append_iff] at obeyed
    cases h' with
    | unknown known' => cases agree known known'
    | unresolved now' accepted' known' resolves' located' =>
      rw [Oracle.obeyed_append_iff] at obeyed'
      obtain rfl := Except.error.inj (located.unique alike located' obeyed.1 obeyed'.1)
      rfl
    | visited visits known' visited =>
      rw [Oracle.obeyed_append_iff] at obeyed'
      obtain rfl := Option.some.inj (agree known known')
      exact (visited.not_located alike.symm resolves located obeyed'.1 obeyed.1).elim
  | visited visits known visited =>
    rw [Oracle.obeyed_append_iff] at obeyed
    cases h' with
    | unknown known' => cases agree known known'
    | unresolved now accepted known' resolves located =>
      rw [Oracle.obeyed_append_iff] at obeyed'
      obtain rfl := Option.some.inj (agree known known')
      exact (visited.not_located alike resolves located obeyed.1 obeyed'.1).elim
    | visited visits' known' visited' =>
      rw [Oracle.obeyed_append_iff] at obeyed'
      obtain rfl := Option.some.inj (agree known known')
      have targets := visited.unique alike visited' obeyed.1 obeyed'.1
      rw [List.map_map, List.map_map]
      exact visits_untimed_eq alike.attempts targets visited.nodup (fun _ _ => by simpa using visited.countP _)
        (fun _ _ => by simpa using visited'.countP _) obeyed.2 obeyed'.2

end Worker

end Lookout
