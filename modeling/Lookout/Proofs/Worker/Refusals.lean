import Lookout.Proofs.Activity.InStep
import Lookout.Proofs.Enqueue.Pushing

/-!
# Refused messages

Whether the queue accepts a message makes no difference to the work: two runs of a test that differ in what is
refused, and in the times, have the same lookups, calls, waits and pushes, and the same messages. What is accepted is
what each of them leaves in the queue of results.
-/

namespace Lookout
set_option autoImplicit false
open Activity Queue

/-- Whether an event is a push that is accepted; nothing if it is no push. -/
def Event.accepted? : Event → Option Bool
  | .push _ _ accepted => some accepted
  | _ => none

/-- Messages on the wire that are the same but for their times. -/
def SameButTime (p p' : Payload) : Prop :=
  ∃ m m' : ResultMessage, p = m.wire ∧ p' = m'.wire ∧ m.untimed = m'.untimed

namespace Worker

variable {w : Worker} {t : Test} {es es' : List Event} {ms ms' : List ResultMessage}

theorem attempts_inStep (P : Payload → Payload → Prop) (c : Call) (delay more : Nat) :
    InStep P Eq (attempts c delay more) (attempts c delay more) := by
  induction more with
  | zero => exact .call fun failure => .done rfl
  | succ more ih =>
    refine .call fun failure => ?_
    cases failure with
    | none => exact .done rfl
    | some f => exact .wait ih

theorem report_inStep (w : Worker) (t : Test) (target : String) (failure : Option String) :
    InStep SameButTime (fun m m' => m.untimed = m'.untimed) (w.report t target failure)
      (w.report t target failure) := by
  rw [report_eq]
  exact .time fun now now' => .push ⟨_, _, rfl, rfl, rfl⟩ fun _ _ => .done rfl

theorem probe_inStep (w : Worker) (t : Test) (target : String) :
    InStep SameButTime (fun m m' => m.untimed = m'.untimed) (w.probe t target) (w.probe t target) := by
  refine (attempts_inStep SameButTime _ _ _).bind fun failure failure' same => ?_
  subst same
  exact report_inStep w t target failure

theorem probeAll_inStep (w : Worker) (t : Test) (targets : List String) :
    InStep SameButTime (fun ms ms' => ms.map ResultMessage.untimed = ms'.map ResultMessage.untimed)
      (w.probeAll t targets) (w.probeAll t targets) := by
  induction targets with
  | nil => exact .done rfl
  | cons target rest ih =>
    refine (probe_inStep w t target).bind fun m m' first => ih.bind fun ms ms' others => .done ?_
    rw [List.map_cons, List.map_cons, first, others]

theorem resolve_inStep (P : Payload → Payload → Prop) (w : Worker) (t : Test) :
    InStep P Eq (w.resolve t) (w.resolve t) := by
  unfold resolve
  split
  · exact .done rfl
  · exact .lookup fun found => .done rfl

/-- A worker that runs a test keeps in step with itself. -/
theorem execute_inStep (w : Worker) (t : Test) :
    InStep SameButTime (fun ms ms' => ms.map ResultMessage.untimed = ms'.map ResultMessage.untimed)
      (w.execute t) (w.execute t) := by
  unfold execute
  split
  · exact .done rfl
  · split
    · refine (resolve_inStep SameButTime w t).bind fun targets targets' same => ?_
      subst same
      cases targets with
      | error e => exact (report_inStep w t t.target _).bind fun m m' alike => .done (by simp [alike])
      | ok targets => exact probeAll_inStep w t targets
    · exact probeAll_inStep w t [t.target]

/-- The messages whose pushes are accepted. -/
def acceptedOf (ms : List ResultMessage) (es : List Event) : List ResultMessage :=
  ((ms.zip (es.filterMap Event.accepted?)).filter Prod.snd).map Prod.fst

theorem acceptedOf_accepted (m : ResultMessage) (ms : List ResultMessage) (queue : String) (p : Payload)
    (es : List Event) : acceptedOf (m :: ms) (.push queue p true :: es) = m :: acceptedOf ms es := rfl

/-- Events that push these messages one by one leave those that are accepted. -/
theorem gained_acceptedOf {queue : String}
    (pushed : es.filterMap Event.pushed? = ms.map fun m => (queue, m.wire)) (s : Store) :
    Enqueue.Gained queue ((acceptedOf ms es).map ResultMessage.wire) s (Event.applyAll es s) := by
  have posted : ∀ key, es.filterMap (fun e => (Deed.did e).posted? key) =
      if key = queue then (acceptedOf ms es).map ResultMessage.wire else [] := by
    intro key
    induction es generalizing ms with
    | nil =>
      obtain rfl : ms = [] := List.map_eq_nil_iff.1 pushed.symm
      simp [acceptedOf]
    | cons e es ih =>
      cases e with
      | push q p accepted =>
        cases ms with
        | nil => cases pushed
        | cons m ms =>
          obtain ⟨own, rest⟩ := List.cons.inj pushed
          obtain ⟨rfl, rfl⟩ := Prod.mk.inj own
          have later := ih rest
          cases accepted with
          | false => exact later
          | true =>
            rw [acceptedOf_accepted, List.map_cons, List.filterMap_cons, later]
            by_cases same : q = key
            · simp [Deed.posted?, same]
            · simp [Deed.posted?, same, Ne.symm same]
      | lookup | call | wait | time => exact ih pushed
  constructor
  · rw [held_applyAll, posted, if_pos rfl]
  · intro key other
    rw [held_applyAll, posted, if_neg other, List.append_nil]

/-- **Refusals change nothing but what is left.** Two runs of a test in which lookups and calls are answered alike are
the same event by event but for the times and for what is accepted, and make the same messages but for their times;
each leaves in the queue of results the messages that are accepted there, in their order. -/
theorem refusals_change_nothing (run : Run (w.execute t) es ms) (run' : Run (w.execute t) es' ms')
    (lookups : Agree (es.filterMap Event.found?) (es'.filterMap Event.found?))
    (calls : Agree (es.filterMap Event.failure?) (es'.filterMap Event.failure?)) :
    List.Forall₂ (Event.Matches SameButTime) es es' ∧
      ms.map ResultMessage.untimed = ms'.map ResultMessage.untimed ∧
      (∀ s, Enqueue.Gained w.settings.resultsQueue ((acceptedOf ms es).map ResultMessage.wire) s
        (Event.applyAll es s)) ∧
      ∀ s, Enqueue.Gained w.settings.resultsQueue ((acceptedOf ms' es').map ResultMessage.wire) s
        (Event.applyAll es' s) := by
  obtain ⟨matched, same⟩ := (execute_inStep w t).runs_match run run' lookups calls
  exact ⟨matched, same, gained_acceptedOf (executed_of_run run).pushed, gained_acceptedOf (executed_of_run run').pushed⟩

/-- A worker whose one probe is run against every address of a host, at most twice. -/
def pingWorker : Worker where
  registry := ⟨[{ name := "ping", resolves := true }], by simp⟩
  settings := { retry := { count := 2, delay := 250 } }

def pingTest : Test where
  kind := "ping"
  target := "host"
  input := "host must run ping"
  arguments := .empty

/-- The host has two addresses, of which the first one is down. The first message is accepted or refused, and all
others are accepted. -/
def pingEnvironment (now : Int64) (first : Bool) : Environment where
  lookup _ _ := some [.v4 #v[10, 0, 0, 1], .v4 #v[10, 0, 0, 2]]
  call past _ := if past.length < 4 then some "down" else none
  time _ := now
  push past _ _ := first || past.any (·.accepted?.isSome)

theorem second_message_left :
    (play (pingEnvironment 0 false) [] (pingWorker.execute pingTest)).2.map ResultMessage.untimed =
        (play (pingEnvironment 60 true) [] (pingWorker.execute pingTest)).2.map ResultMessage.untimed ∧
      (Event.applyAll (play (pingEnvironment 0 false) [] (pingWorker.execute pingTest)).1 {}).held "vigil.results" =
        [(pingTest.message "10.0.0.2" none 0).wire] := by
  have run := run_play (pingEnvironment 0 false) [] (pingWorker.execute pingTest)
  have run' := run_play (pingEnvironment 60 true) [] (pingWorker.execute pingTest)
  have lookups : (play (pingEnvironment 0 false) [] (pingWorker.execute pingTest)).1.filterMap Event.found? =
      (play (pingEnvironment 60 true) [] (pingWorker.execute pingTest)).1.filterMap Event.found? := by decide +kernel
  have calls : (play (pingEnvironment 0 false) [] (pingWorker.execute pingTest)).1.filterMap Event.failure? =
      (play (pingEnvironment 60 true) [] (pingWorker.execute pingTest)).1.filterMap Event.failure? := by decide +kernel
  obtain ⟨-, same, left, -⟩ := refusals_change_nothing run run' (lookups ▸ agree_refl _) (calls ▸ agree_refl _)
  refine ⟨same, (left {}).own.trans ?_⟩
  decide +kernel

end Worker

end Lookout
