import Lookout.Payload

/-!
# Queues in memory

Named queues of payloads. A queue that was never pushed to is empty.
-/

namespace Lookout.Queue
set_option autoImplicit false

/-- The content of every queue, oldest payload first. -/
structure Store where
  queues : List (String × List Payload) := []
deriving Inhabited

namespace Store

/-- What a queue holds, oldest first. -/
def held (s : Store) (queue : String) : List Payload :=
  (s.queues.lookup queue).getD []

/-- How many payloads a queue holds. -/
def size (s : Store) (queue : String) : Nat :=
  ((s.queues.lookup queue).map List.length).getD 0

def isEmpty (s : Store) (queue : String) : Bool :=
  s.size queue == 0

/-- Replaces what a queue holds. -/
def setEntry (queue : String) (items : List Payload) :
    List (String × List Payload) → List (String × List Payload)
  | [] => [(queue, items)]
  | (q, old) :: r => if q = queue then (q, items) :: r else (q, old) :: setEntry queue items r

def set (s : Store) (queue : String) (items : List Payload) : Store :=
  ⟨setEntry queue items s.queues⟩

/-- Appends a payload to a queue. -/
def push (s : Store) (queue : String) (p : Payload) : Store :=
  s.set queue (s.held queue ++ [p])

/-- Removes the oldest payload of a queue. -/
def take? (s : Store) (queue : String) : Option (Payload × Store) :=
  match s.held queue with
  | [] => none
  | p :: r => some (p, s.set queue r)

/-- Removes all payloads of a queue. -/
def drain (s : Store) (queue : String) : List Payload × Store :=
  (s.held queue, s.set queue [])

theorem size_eq (s : Store) (queue : String) : s.size queue = (s.held queue).length := by
  simp only [size, held]
  cases s.queues.lookup queue <;> rfl

theorem isEmpty_iff {s : Store} {queue : String} : s.isEmpty queue = true ↔ s.held queue = [] := by
  simp [isEmpty, size_eq]

theorem lookup_setEntry (queue key : String) (items : List Payload) (l : List (String × List Payload)) :
    (setEntry queue items l).lookup key = if key = queue then some items else l.lookup key := by
  induction l with
  | nil => by_cases h : key = queue <;> simp [setEntry, List.lookup_cons, h, beq_eq_false_iff_ne.2]
  | cons e r ih =>
    obtain ⟨q, old⟩ := e
    simp only [setEntry]
    split
    · next eq => subst eq; by_cases h : key = q <;> simp [List.lookup_cons, h, beq_eq_false_iff_ne.2]
    · next ne =>
      by_cases h : key = q
      · subst h; simp [ne]
      · simp [List.lookup_cons, beq_eq_false_iff_ne.2 h, ih]

@[simp] theorem held_set (s : Store) (queue key : String) (items : List Payload) :
    (s.set queue items).held key = if key = queue then items else s.held key := by
  simp only [held, set, lookup_setEntry]; split <;> rfl

theorem held_push (s : Store) (queue key : String) (p : Payload) :
    (s.push queue p).held key = if key = queue then s.held queue ++ [p] else s.held key := by
  simp [push]

theorem take?_eq_some {s s' : Store} {queue : String} {p : Payload} (h : s.take? queue = some (p, s')) :
    s.held queue = p :: s'.held queue ∧ ∀ key, key ≠ queue → s'.held key = s.held key := by
  simp only [take?] at h
  split at h
  · simp at h
  · next q r e =>
    obtain ⟨rfl, rfl⟩ := Prod.mk.inj (Option.some.inj h)
    exact ⟨by simp [e], fun key ne => by simp [ne]⟩

theorem take?_eq_none {s : Store} {queue : String} : s.take? queue = none ↔ s.held queue = [] := by
  simp only [take?]; split <;> simp_all

end Store

end Lookout.Queue
