import Lookout.ResultMessage
import Lookout.Proofs.Json.Objects
import Lookout.Proofs.Named
import Lookout.Proofs.Router.Copies

/-!
# Messages and conditions

A message is written with one member for each of its fields, and a router reads the members again that a condition
asks for. Both agree for every message: a condition is met just if it names a field that the message has and gives
its text.
-/

namespace Lookout
set_option autoImplicit false
open Json

namespace Json

/-- Where names do not repeat, a member is the one with its name. -/
theorem member?_eq_some_iff {members : List (String × Value)} {name : String} {v : Value}
    (distinct : (members.map Prod.fst).Nodup) : member? members name = some v ↔ (name, v) ∈ members := by
  have names : (members.reverse.map Prod.fst).Nodup := by
    rw [List.map_reverse]
    exact List.nodup_reverse.2 distinct
  rw [member?, lookup_eq_some_iff_mem (countP_name_le_one names name), List.mem_reverse]

/-- A condition on an object in writing is met by the member that it names. -/
theorem holds_iff {members : List Member} {c : Clause} (distinct : (members.map Member.name).Nodup) :
    c.holds (members.map fun m => (m.name, m.value)) = true ↔
      ∃ m ∈ members, m.name = c.field ∧ Clause.valueText? m.value = some c.value := by
  have names : ((members.map fun m => (m.name, m.value)).map Prod.fst).Nodup := by
    rw [List.map_map]
    exact distinct
  rw [Clause.holds, beq_iff_eq, Option.bind_eq_some_iff]
  constructor
  · rintro ⟨v, named, text⟩
    obtain ⟨m, mem, same⟩ := List.mem_map.1 ((member?_eq_some_iff names).1 named)
    obtain ⟨name, rfl⟩ := Prod.mk.inj same
    exact ⟨m, mem, name, text⟩
  · rintro ⟨m, mem, name, text⟩
    exact ⟨m.value, (member?_eq_some_iff names).2 (List.mem_map.2 ⟨m, mem, by rw [name]⟩), text⟩

end Json

namespace ResultMessage

variable {m : ResultMessage} {c : Clause} {time : Member}

/-- The conditions that a message meets. -/
inductive Meets (m : ResultMessage) : Clause → Prop where
  | input : Meets m ⟨"input", m.input⟩
  | kind : Meets m ⟨"type", m.kind⟩
  | target : Meets m ⟨"target", m.target⟩
  | result : Meets m ⟨"result", m.result.text⟩
  | error {reason : String} (failed : m.error? = some reason) : Meets m ⟨"error", reason⟩
  | time : Meets m ⟨"time", toString m.time.toInt⟩

/-- The members of a message in writing, where its time is written in some way. -/
def writtenAs (m : ResultMessage) (time : Member) : List Member :=
  [.text "input" m.input, .text "type" m.kind, .text "target" m.target, .text "result" m.result.text]
    ++ (m.error?.map (Member.text "error")).toList ++ [time]

/-- The message on the wire, but for its time, which is a number there. -/
def numericWire (m : ResultMessage) : Payload :=
  writeObject (m.writtenAs (.integer "time" m.time))

theorem wire_eq (m : ResultMessage) : m.wire = writeObject (m.writtenAs (.text "time" (toString m.time.toInt))) := by
  rw [wire, writeStrings_eq, members, writtenAs]
  cases m.error? <;> rfl

/-- Which destinations a payload goes to is decided by the fields of a message. -/
structure Decides (m : ResultMessage) (p : Payload) : Prop where
  takes_iff : ∀ d : Destination, d.takes p = true ↔ ∀ c ∈ d.clauses, m.Meets c
  select_eq : ∀ r : Router, r.select? p = some (r.copies p)

theorem distinct_writtenAs (m : ResultMessage) (name : time.name = "time") :
    ((m.writtenAs time).map Member.name).Nodup := by
  rw [writtenAs]
  cases m.error? <;> simp [Member.text, name]

theorem holds_iff_meets (name : time.name = "time")
    (text : Clause.valueText? time.value = some (toString m.time.toInt)) :
    c.holds ((m.writtenAs time).map fun w => (w.name, w.value)) = true ↔ m.Meets c := by
  rw [holds_iff (m.distinct_writtenAs name)]
  constructor
  · rintro ⟨w, mem, same, value⟩
    -- the member with the name of the field is one of those written, and its text is the one asked for
    obtain ⟨field, expected⟩ := c
    simp only at same value
    obtain rfl := same
    simp only [writtenAs, List.mem_append, List.mem_cons, List.not_mem_nil, or_false, Option.mem_toList,
      Option.map_eq_some_iff] at mem
    rcases mem with ((rfl | rfl | rfl | rfl) | ⟨reason, failed, rfl⟩) | rfl
    · obtain rfl := Option.some.inj value
      exact .input
    · obtain rfl := Option.some.inj value
      exact .kind
    · obtain rfl := Option.some.inj value
      exact .target
    · obtain rfl := Option.some.inj value
      exact .result
    · obtain rfl := Option.some.inj value
      exact .error failed
    · obtain rfl := Option.some.inj (text.symm.trans value)
      exact name ▸ .time
  · intro meets
    cases meets with
    | input => exact ⟨.text "input" m.input, by simp [writtenAs], rfl, rfl⟩
    | kind => exact ⟨.text "type" m.kind, by simp [writtenAs], rfl, rfl⟩
    | target => exact ⟨.text "target" m.target, by simp [writtenAs], rfl, rfl⟩
    | result => exact ⟨.text "result" m.result.text, by simp [writtenAs], rfl, rfl⟩
    | error failed => exact ⟨.text "error" _, by simp [writtenAs, failed], rfl, rfl⟩
    | time => exact ⟨time, by simp [writtenAs], name, text⟩

theorem decides_writtenAs (m : ResultMessage) (name : time.name = "time")
    (text : Clause.valueText? time.value = some (toString m.time.toInt)) :
    m.Decides (writeObject (m.writtenAs time)) := by
  have object := @object?_writeObject (m.writtenAs time) (by simp [writtenAs])
  constructor
  · intro d
    simp [Destination.takes, Destination.accepts, object, holds_iff_meets name text]
  · intro r
    rw [r.select?_eq, object]
    rfl

/-- The least time, and a line with a control character in it. -/
example : Destination.takes ⟨"old", [⟨"time", "-9223372036854775808"⟩, ⟨"input", "\x01\""⟩]⟩
    (numericWire ⟨"\x01\"", "web", "host", .passed, none, .minValue⟩) = true := by
  decide +kernel

end ResultMessage

end Lookout
