import Lookout.ResultMessage
import Lookout.Proofs.Json.Objects
import Lookout.Proofs.Named
import Lookout.Proofs.Text.Joining
import Mathlib.Data.List.Forall2
import Mathlib.Tactic.MkIffOfInductiveProp

/-!
# Messages read back

Which JSON texts are read as a message: an object that shows each of the message's fields once, in any order and among
any other members, or an array that shows them in their order. A message in writing is such an object, so that it is
read as the message that was written, and so is every message that was itself read.
-/

namespace Lookout
set_option autoImplicit false
open Json

namespace Json

variable {n : Numeral} {k : Nat}

/-- A negative number is in the range of 64 bits with a sign. -/
theorem negative_range (read : Number.ofNumeral? n = some (.negative k)) : 0 < k ∧ k ≤ Text.maxInt64 + 1 := by
  unfold Number.ofNumeral? at read
  split at read
  · split at read
    · next value _ =>
      split at read
      · simp at read
      · split at read
        · next range =>
          obtain rfl : value = k := by simpa using read
          simp at range
          omega
        · simp at read
    · simp at read
  · simp at read

end Json

namespace Outcome

theorem ofText?_eq_some_iff {s : String} {o : Outcome} : ofText? s = some o ↔ s = o.text := by
  constructor
  · intro read
    unfold ofText? at read
    split at read
    · next passed =>
      obtain rfl := Option.some.inj read
      exact passed
    · split at read
      · next failed =>
        obtain rfl := Option.some.inj read
        exact failed
      · cases read
  · rintro rfl
    exact ofText?_text o

end Outcome

namespace ResultMessage

/-- The JSON text is a string for the text `s`, however its characters are written. -/
def IsText (r : Raw) (s : String) : Prop :=
  ∃ pieces, r = .string pieces ∧ Json.text? pieces = some s

/-- What a member of a message shows. An outcome may be written as an object, a reason that is missing as null, and a
time as a text or a whole number. -/
@[mk_iff]
inductive Shows (m : ResultMessage) : String → Raw → Prop where
  | input {r : Raw} (text : IsText r m.input) : Shows m "input" r
  | kind {r : Raw} (text : IsText r m.kind) : Shows m "type" r
  | target {r : Raw} (text : IsText r m.target) : Shows m "target" r
  | result {r : Raw} (text : IsText r m.result.text) : Shows m "result" r
  | variant {name : List Piece} (text : Json.text? name = some m.result.text) :
      Shows m "result" (.object [(name, .null)])
  | reason {r : Raw} {reason : String} (failed : m.error? = some reason) (text : IsText r reason) : Shows m "error" r
  | noReason (without : m.error? = none) : Shows m "error" .null
  | timeText {r : Raw} {s : String} (text : IsText r s)
      (numeral : Text.readInt Text.maxInt64 (Text.trim s.toList) = .ok m.time.toInt) : Shows m "time" r
  | timeNumber {n : Numeral} (value : Number.ofNumeral? n = some (numberOf m.time.toInt)) : Shows m "time" (.number n)

/-- The members show the message: each of its fields once, where a missing reason may be left out. -/
structure ShownBy (m : ResultMessage) (members : List (String × Raw)) : Prop where
  once : ∀ name ∈ memberNames, members.countP (·.1 == name) ≤ 1
  shows : ∀ name r, (name, r) ∈ members → name ∈ memberNames → m.Shows name r
  complete : ∀ name ∈ memberNames, (∃ r, (name, r) ∈ members) ∨ name = "error" ∧ m.error? = none

/-- The JSON texts that a message is read from. -/
inductive ReadFrom (m : ResultMessage) : Raw → Prop where
  | object {members : List (List Piece × Raw)} {named : List (String × Raw)}
      (names : members.map (fun w => (Json.text? w.1).map (·, w.2)) = named.map some)
      (shown : m.ShownBy named) : ReadFrom m (.object members)
  | array {items : List Raw} (shown : List.Forall₂ m.Shows memberNames items) : ReadFrom m (.array items)

variable {m : ResultMessage} {r : Raw} {s name : String}

theorem textOf?_eq_some_iff : textOf? r = some s ↔ IsText r s := by
  cases r <;> simp [textOf?, IsText]

theorem optionalTextOf?_eq_some_iff {reason? : Option String} : optionalTextOf? r = some reason? ↔
    (∃ reason, reason? = some reason ∧ IsText r reason) ∨ r = .null ∧ reason? = none := by
  cases r with
  | string pieces =>
    simp only [optionalTextOf?, Option.map_eq_some_iff, textOf?_eq_some_iff]
    constructor
    · rintro ⟨reason, text, rfl⟩
      exact .inl ⟨reason, rfl, text⟩
    · rintro (⟨reason, rfl, text⟩ | ⟨⟨⟩, -⟩)
      exact ⟨reason, text, rfl⟩
  | null => simp [optionalTextOf?, IsText, eq_comm]
  | _ => simp [optionalTextOf?, textOf?, IsText]

theorem outcomeOf?_eq_some_iff {o : Outcome} : outcomeOf? r = some o ↔
    IsText r o.text ∨ ∃ name, r = .object [(name, .null)] ∧ Json.text? name = some o.text := by
  unfold outcomeOf?
  split
  · simp [IsText, Option.bind_eq_some_iff, Outcome.ofText?_eq_some_iff]
  · simp [IsText, Option.bind_eq_some_iff, Outcome.ofText?_eq_some_iff]
  · next noText noVariant =>
    constructor
    · rintro ⟨⟩
    · rintro (⟨pieces, rfl, -⟩ | ⟨name, rfl, -⟩)
      · exact absurd rfl (noText pieces)
      · exact absurd rfl (noVariant name)

/-- A number in the range of 64 bits is the time that it stands for. -/
theorem ofInt_eq_iff {v : Int} {t : Int64} (low : -(Text.maxInt64 + 1 : Int) ≤ v) (high : v ≤ Text.maxInt64) :
    Int64.ofInt v = t ↔ t.toInt = v := by
  constructor
  · rintro rfl
    simp only [Text.maxInt64] at low high
    rw [Int64.toInt_ofInt_of_le (by omega) (by omega)]
  · rintro rfl
    exact Int64.ofInt_toInt t

theorem timeOf?_number_eq_some_iff {n : Numeral} {t : Int64} :
    timeOf? (.number n) = some t ↔ Number.ofNumeral? n = some (numberOf t.toInt) := by
  have greatest := t.toInt_lt
  cases read : Number.ofNumeral? n with
  | none => simp [timeOf?, read]
  | some x =>
    rw [Option.some.injEq, eq_comm (b := numberOf t.toInt)]
    cases x with
    | nat k =>
      simp only [timeOf?, read, numberOf_eq_nat_iff]
      by_cases small : k ≤ Text.maxInt64
      · rw [if_pos small, Option.some.injEq, ← Int64.ofInt_eq_ofNat]
        exact ofInt_eq_iff (by omega) (by omega)
      · rw [if_neg small]
        simp only [Text.maxInt64] at small
        constructor
        · rintro ⟨⟩
        · omega
    | negative k =>
      obtain ⟨positive, small⟩ := negative_range read
      simp only [timeOf?, read, numberOf_eq_negative_iff, Option.some.injEq, and_iff_left positive]
      exact ofInt_eq_iff (by omega) (by omega)
    | float x =>
      have whole : numberOf t.toInt ≠ .float x := by
        cases t.toInt <;> simp [numberOf]
      simp [timeOf?, read, whole]

theorem timeOf?_eq_some_iff {t : Int64} : timeOf? r = some t ↔
    (∃ n, r = .number n ∧ Number.ofNumeral? n = some (numberOf t.toInt)) ∨
      ∃ s, IsText r s ∧ Text.readInt Text.maxInt64 (Text.trim s.toList) = .ok t.toInt := by
  cases r with
  | number n => simp [timeOf?_number_eq_some_iff, IsText]
  | string pieces =>
    have form : timeOf? (.string pieces) = (Json.text? pieces).bind fun s =>
        (Text.readInt Text.maxInt64 (Text.trim s.toList)).toOption.map Int64.ofInt := by
      simp only [timeOf?, Option.bind_eq_bind, Option.pure_def, Option.map_eq_bind]
      rfl
    have value : ∀ s : String, (Text.readInt Text.maxInt64 (Text.trim s.toList)).toOption.map Int64.ofInt = some t ↔
        Text.readInt Text.maxInt64 (Text.trim s.toList) = .ok t.toInt := by
      intro s
      cases read : Text.readInt Text.maxInt64 (Text.trim s.toList) with
      | error e => simp [Except.toOption]
      | ok v =>
        obtain ⟨low, high⟩ := Text.readInt_range read
        simp only [Except.toOption, Option.map_some, Option.some.injEq, Except.ok.injEq, ofInt_eq_iff low high]
        exact eq_comm
    rw [form, Option.bind_eq_some_iff]
    simp [value, IsText]
  | _ => simp [timeOf?, IsText]

/-- What a message needs of the member with this name, if there is one. -/
def Fits (m : ResultMessage) (name : String) : Option Raw → Prop
  | some r => m.Shows name r
  | none => name = "error" ∧ m.error? = none

theorem shows_input_iff : m.Shows "input" r ↔ textOf? r = some m.input := by
  simp [shows_iff, textOf?_eq_some_iff]

theorem shows_kind_iff : m.Shows "type" r ↔ textOf? r = some m.kind := by
  simp [shows_iff, textOf?_eq_some_iff]

theorem shows_target_iff : m.Shows "target" r ↔ textOf? r = some m.target := by
  simp [shows_iff, textOf?_eq_some_iff]

theorem shows_result_iff : m.Shows "result" r ↔ outcomeOf? r = some m.result := by
  simp [shows_iff, outcomeOf?_eq_some_iff, and_comm]

theorem fits_error_iff {r? : Option Raw} : m.Fits "error" r? ↔ (r?.map optionalTextOf?).getD (some none) = some m.error? := by
  cases r? with
  | none => simp [Fits, eq_comm]
  | some r => simp [Fits, shows_iff, optionalTextOf?_eq_some_iff, and_comm]

theorem shows_time_iff : m.Shows "time" r ↔ timeOf? r = some m.time := by
  simp [shows_iff, timeOf?_eq_some_iff, or_comm, and_comm]

theorem fits_iff (required : name ≠ "error") {r? : Option Raw} : m.Fits name r? ↔ ∃ r, r? = some r ∧ m.Shows name r := by
  cases r? <;> simp [Fits, required]

/-- A message is read from members that show its fields. -/
theorem ofMembers?_eq_some_iff {get : String → Option Raw} :
    ofMembers? get = some m ↔ ∀ name ∈ memberNames, m.Fits name (get name) := by
  obtain ⟨input, kind, target, result, error?, time⟩ := m
  simp only [memberNames, List.forall_mem_cons, List.not_mem_nil, false_implies, implies_true, and_true, fits_error_iff,
    fits_iff (show "input" ≠ "error" by decide), fits_iff (show "type" ≠ "error" by decide),
    fits_iff (show "target" ≠ "error" by decide), fits_iff (show "result" ≠ "error" by decide),
    fits_iff (show "time" ≠ "error" by decide), shows_input_iff, shows_kind_iff, shows_target_iff, shows_result_iff,
    shows_time_iff]
  simp only [ofMembers?, Option.bind_eq_bind, Option.pure_def, Option.bind_eq_some_iff, Option.some.injEq]
  constructor
  · rintro ⟨_, gotInput, _, readInput, _, gotKind, _, readKind, _, gotTarget, _, readTarget, _, gotResult, _, readResult,
      _, readReason, _, gotTime, _, readTime, same⟩
    cases same
    exact ⟨⟨_, gotInput, readInput⟩, ⟨_, gotKind, readKind⟩, ⟨_, gotTarget, readTarget⟩, ⟨_, gotResult, readResult⟩,
      readReason, _, gotTime, readTime⟩
  · rintro ⟨⟨_, gotInput, readInput⟩, ⟨_, gotKind, readKind⟩, ⟨_, gotTarget, readTarget⟩, ⟨_, gotResult, readResult⟩,
      readReason, _, gotTime, readTime⟩
    exact ⟨_, gotInput, _, readInput, _, gotKind, _, readKind, _, gotTarget, _, readTarget, _, gotResult, _, readResult,
      _, readReason, _, gotTime, _, readTime, rfl⟩

/-- The members of an object show a message just if each name is found at most once, and what is found shows it. -/
theorem shownBy_iff {named : List (String × Raw)} : m.ShownBy named ↔
    (∀ name ∈ memberNames, named.countP (·.1 == name) ≤ 1) ∧ ∀ name ∈ memberNames, m.Fits name (named.lookup name) := by
  constructor
  · rintro ⟨once, shows, complete⟩
    refine ⟨once, fun name known => ?_⟩
    cases found : named.lookup name with
    | some r => exact shows name r ((lookup_eq_some_iff_mem (once name known)).1 found) known
    | none => exact (complete name known).resolve_left fun ⟨r, mem⟩ => lookup_eq_none_iff_mem.1 found r mem
  · rintro ⟨once, fits⟩
    refine ⟨once, fun name r mem known => ?_, fun name known => ?_⟩
    · have found := fits name known
      rwa [(lookup_eq_some_iff_mem (once name known)).2 mem] at found
    · have found := fits name known
      cases there : named.lookup name with
      | some r => exact .inl ⟨r, (lookup_eq_some_iff_mem (once name known)).1 there⟩
      | none =>
        rw [there] at found
        exact .inr found

/-- The items of an array show a message just if they are found under the names in their order. -/
theorem forall₂_shows_iff {items : List Raw} : List.Forall₂ m.Shows memberNames items ↔
    items.length = memberNames.length ∧ ∀ name ∈ memberNames, m.Fits name ((memberNames.zip items).lookup name) := by
  by_cases length : items.length = memberNames.length
  · match items, length with
    | [input, kind, target, result, reason, time], _ => simp [memberNames, List.lookup_cons, Fits]
  · exact iff_of_false (fun shown => length shown.length_eq.symm) fun both => length both.1

/-- **Which payloads are read as a message**, and as which one. -/
theorem ofPayload?_eq_some_iff {p : Payload} :
    ofPayload? p = some m ↔ ∃ raw, Raw.ofPayload? p = some raw ∧ m.ReadFrom raw := by
  rw [ofPayload?]
  simp only [Option.bind_eq_bind, Option.bind_eq_some_iff]
  refine exists_congr fun raw => and_congr_right fun _ => ?_
  cases raw with
  | object members =>
    have read : ∀ named : List (String × Raw),
        (if memberNames.all fun name => named.countP (·.1 == name) ≤ 1 then ofMembers? fun name => named.lookup name
          else none) = some m ↔ m.ShownBy named := by
      intro named
      rw [shownBy_iff, ← ofMembers?_eq_some_iff]
      split
      · next once =>
        have single : ∀ name ∈ memberNames, named.countP (·.1 == name) ≤ 1 := by simpa using once
        exact (and_iff_right single).symm
      · next twice =>
        have repeated : ¬ ∀ name ∈ memberNames, named.countP (·.1 == name) ≤ 1 := by simpa using twice
        exact iff_of_false (Option.some_ne_none m ∘ Eq.symm) fun both => repeated both.1
    simp only [Option.bind_eq_some_iff, Text.mapM_eq_some_iff, read]
    constructor
    · rintro ⟨named, names, shown⟩
      exact .object names shown
    · rintro ⟨names, shown⟩
      exact ⟨_, names, shown⟩
  | array items =>
    have read := @forall₂_shows_iff m items
    rw [← ofMembers?_eq_some_iff] at read
    simp only
    rw [Option.ite_none_right_eq_some, ← read]
    constructor
    · exact .array
    · rintro ⟨⟩
      assumption
  | _ =>
    refine iff_of_false (by rintro ⟨⟩) (by rintro ⟨⟩)

/-- A text in writing is that text. -/
theorem isText_piecesOf (s : String) : IsText (.string (piecesOf s)) s :=
  ⟨_, rfl, text?_piecesOf s⟩

/-- The members of a message in writing. -/
def writtenMembers (m : ResultMessage) : List (String × Raw) :=
  m.members.map fun w => (w.1, .string (piecesOf w.2))

theorem shows_of_mem_members {name s : String} (mem : (name, s) ∈ m.members) : m.Shows name (.string (piecesOf s)) := by
  simp only [members, List.mem_append, List.mem_cons, List.not_mem_nil, or_false, Option.mem_toList,
    Option.map_eq_some_iff, Prod.mk.injEq] at mem
  rcases mem with ((⟨rfl, rfl⟩ | ⟨rfl, rfl⟩ | ⟨rfl, rfl⟩ | ⟨rfl, rfl⟩) | ⟨reason, failed, rfl, rfl⟩) | ⟨rfl, rfl⟩
  · exact .input (isText_piecesOf _)
  · exact .kind (isText_piecesOf _)
  · exact .target (isText_piecesOf _)
  · exact .result (isText_piecesOf _)
  · exact .reason failed (isText_piecesOf _)
  · obtain ⟨low, high⟩ := Text.int64_range m.time
    refine .timeText (isText_piecesOf _) ?_
    rw [Text.trim_toString]
    exact Text.readInt_toString low high

theorem shownBy_writtenMembers (m : ResultMessage) : m.ShownBy m.writtenMembers := by
  constructor
  · have distinct : (m.writtenMembers.map Prod.fst).Nodup := by
      rw [writtenMembers, List.map_map, members]
      cases m.error? <;> simp
    exact fun name _ => countP_name_le_one distinct name
  · intro name r mem _
    obtain ⟨w, there, same⟩ := List.mem_map.1 mem
    obtain ⟨rfl, rfl⟩ := Prod.mk.inj same
    exact shows_of_mem_members there
  · intro name known
    simp only [memberNames, List.mem_cons, List.not_mem_nil, or_false] at known
    rcases known with rfl | rfl | rfl | rfl | rfl | rfl
    all_goals cases reason : m.error? <;> simp [writtenMembers, members, reason]

/-- A message in writing is read as the message. -/
theorem ofPayload?_wire (m : ResultMessage) : ofPayload? m.wire = some m := by
  rw [wire, writeStrings_eq]
  refine ofPayload?_eq_some_iff.2 ⟨_, ofPayload?_writeObject ?_, ?_⟩
  · simp [members]
  · refine @ReadFrom.object m _ m.writtenMembers ?_ m.shownBy_writtenMembers
    simp [writtenMembers, Member.pair, Member.text, text?_piecesOf]

/-- **Messages survive the wire.** A message in writing is read as itself; the payloads that are read as it are those
whose JSON text shows its fields; and a payload that is read as a message is read as the same one when the message has
been written again. -/
theorem read_back (m : ResultMessage) (p : Payload) :
    ofPayload? m.wire = some m ∧
      (ofPayload? p = some m ↔ ∃ raw, Raw.ofPayload? p = some raw ∧ m.ReadFrom raw) ∧
      ((ofPayload? p).map wire).bind ofPayload? = ofPayload? p := by
  refine ⟨m.ofPayload?_wire, ofPayload?_eq_some_iff, ?_⟩
  cases ofPayload? p with
  | none => rfl
  | some other => exact other.ofPayload?_wire

/-- An array, with a reason that is empty and a time that is a number. -/
example : ofPayload? (Payload.ofText "[\"a\",\"web\",\"h\",\"failed\", \"\",-7]") = some ⟨"a", "web", "h", .failed, some "", -7⟩ := by
  decide +kernel

end ResultMessage

end Lookout
