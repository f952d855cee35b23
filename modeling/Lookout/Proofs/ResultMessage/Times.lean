import Lookout.Proofs.Json.Wholes
import Lookout.Proofs.ResultMessage.Reading
import Lookout.Proofs.Text.Meaning

/-!
# Times

What the time of a message may be: a whole number, or a text that is a numeral with blanks around it. It is read as the
number that it gives if 64 bits carry it, and otherwise, as with any other value, the message is not read at all. What
the rest of the message is does not depend on it.
-/

namespace Lookout.ResultMessage
set_option autoImplicit false
open Json Text

/-- The value gives the number as a time. -/
inductive Gives : Raw → Int → Prop where
  | number {n : Numeral} {i : Int} (whole : n.IsWhole i) : Gives (.number n) i
  | text {r : Raw} {s : String} {cs : List Char} {i : Int} (text : IsText r s) (numeral : StandsFor cs i)
      (padded : Padded cs s.toList) : Gives r i

/-- The payload is an object with these members in front of its time, these behind it, and the time itself. -/
def TimeAmong (before after : List (List Piece × Raw)) (r : Raw) (p : Payload) : Prop :=
  ∃ name, Json.text? name = some "time" ∧ Raw.ofPayload? p = some (.object (before ++ (name, r) :: after))

variable {m : ResultMessage} {p p₀ : Payload} {r r₀ : Raw} {i j : Int} {t : Int64} {name : String}
  {members before after : List (List Piece × Raw)} {named b a : List (String × Raw)}

/-- A value is a number or a text, and gives one number at most. -/
theorem Gives.unique (gives : Gives r i) (gives' : Gives r j) : i = j := by
  cases gives with
  | number whole =>
    cases gives' with
    | number whole' => exact whole.unique whole'
    | text text => obtain ⟨_, ⟨⟩, _⟩ := text
  | text text numeral padded =>
    obtain ⟨pieces, rfl, read⟩ := text
    obtain _ | ⟨⟨_, same, read'⟩, numeral', padded'⟩ := gives'
    obtain rfl := Raw.string.inj same
    obtain rfl := Option.some.inj (read.symm.trans read')
    have trimmed := standsFor_trim_iff.2 ⟨_, numeral, padded⟩
    exact trimmed.unique (standsFor_trim_iff.2 ⟨_, numeral', padded'⟩)

/-- A time in decimal gives itself, as a number and as a text. -/
theorem gives_decimal (t : Int64) :
    Gives (.number (numeralOf t.toInt)) t.toInt ∧ Gives (.string (piecesOf (toString t.toInt))) t.toInt := by
  obtain ⟨low, high⟩ := int64_range t
  constructor
  · have wide := le_maxWord64 high
    exact .number ((ofNumeral?_eq_numberOf_iff low wide).1 (ofNumeral?_numeralOf low wide))
  · have numeral := (readInt_eq_ok_iff.1 (readInt_toString low high)).1
    exact .text (isText_piecesOf _) numeral (.refl _)

/-- A time is read from what gives it. -/
theorem timeOf?_eq_some_iff_gives : timeOf? r = some t ↔ Gives r t.toInt := by
  obtain ⟨low, high⟩ := int64_range t
  have wide := le_maxWord64 high
  simp only [timeOf?_eq_some_iff, ofNumeral?_eq_numberOf_iff low wide, readInt_eq_ok_iff, low, high, and_true,
    standsFor_trim_iff]
  constructor
  · rintro (⟨n, rfl, whole⟩ | ⟨s, text, cs, numeral, padded⟩)
    · exact .number whole
    · exact .text text numeral padded
  · rintro (whole | ⟨text, numeral, padded⟩)
    · exact .inl ⟨_, rfl, whole⟩
    · exact .inr ⟨_, text, _, numeral, padded⟩

theorem timeOf?_eq_none_iff : timeOf? r = none ↔ ∀ t : Int64, ¬ Gives r t.toInt := by
  simp only [Option.eq_none_iff_forall_ne_some, ne_eq, timeOf?_eq_some_iff_gives]

/-- Members that differ in the time only make messages that differ in the time only. -/
theorem ofMembers?_eq_map_time {get get₀ : String → Option Raw} (same : ∀ name, name ≠ "time" → get name = get₀ name)
    (given : get "time" = some r) (valid : ofMembers? get₀ = some m) :
    ofMembers? get = (timeOf? r).map fun t => { m with time := t } := by
  simp only [ofMembers?, Option.bind_eq_bind, Option.pure_def, Option.bind_eq_some_iff, Option.some.injEq] at valid
  obtain ⟨_, gotInput, _, readInput, _, gotKind, _, readKind, _, gotTarget, _, readTarget, _, gotResult, _, readResult,
    _, readReason, _, -, _, -, rfl⟩ := valid
  simp only [ofMembers?, given, same "input" (by decide), same "type" (by decide), same "target" (by decide),
    same "result" (by decide), same "error" (by decide), gotInput, readInput, gotKind, readKind, gotTarget, readTarget,
    gotResult, readResult, readReason, Option.bind_eq_bind, Option.pure_def, Option.bind_some]
  exact Option.map_eq_bind.symm

/-- The members, with their names as texts. -/
def Named (members : List (List Piece × Raw)) (named : List (String × Raw)) : Prop :=
  members.map (fun w => (Json.text? w.1).map (·, w.2)) = named.map some

theorem named_append_cons_iff {n : List Piece} : Named (before ++ (n, r) :: after) named ↔
    ∃ b name a, named = b ++ (name, r) :: a ∧ Named before b ∧ Json.text? n = some name ∧ Named after a := by
  unfold Named
  constructor
  · intro names
    rw [List.map_append, eq_comm, List.map_eq_append_iff] at names
    obtain ⟨b, rest, rfl, front, names⟩ := names
    rw [List.map_cons, List.map_eq_cons_iff] at names
    obtain ⟨e, a, rfl, one, back⟩ := names
    obtain ⟨name, read, rfl⟩ := Option.map_eq_some_iff.1 one.symm
    exact ⟨b, name, a, rfl, front.symm, read, back.symm⟩
  · rintro ⟨b, name, a, rfl, front, read, back⟩
    simp [front, read, back]

theorem ofPayload?_of_named (shape : Raw.ofPayload? p = some (.object members)) (names : Named members named) :
    ofPayload? p = if memberNames.all fun name => named.countP (·.1 == name) ≤ 1 then
      ofMembers? fun name => named.lookup name else none := by
  simp only [ofPayload?, shape, Text.mapM_eq_some_iff.2 names, Option.bind_eq_bind, Option.bind_some]

theorem exists_named (shape : Raw.ofPayload? p = some (.object members)) (valid : ofPayload? p = some m) :
    ∃ named, Named members named := by
  simp only [ofPayload?, shape, Option.bind_eq_bind, Option.bind_some, Option.bind_eq_some_iff,
    Text.mapM_eq_some_iff] at valid
  obtain ⟨named, names, -⟩ := valid
  exact ⟨named, names⟩

theorem lookup_replaced (other : name ≠ "time") :
    (b ++ ("time", r) :: a).lookup name = (b ++ ("time", r₀) :: a).lookup name := by
  have apart : (name == "time") = false := by simpa using other
  simp [List.lookup_append, List.lookup_cons, apart]

theorem countP_replaced (name : String) :
    (b ++ ("time", r) :: a).countP (·.1 == name) = (b ++ ("time", r₀) :: a).countP (·.1 == name) := by
  simp [List.countP_append, List.countP_cons]

/-- A message with another value for its time is the same message with the time that is read from this value, if any. -/
theorem ofPayload?_eq_map_time (valid : ofPayload? p₀ = some m) (among₀ : TimeAmong before after r₀ p₀)
    (among : TimeAmong before after r p) : ofPayload? p = (timeOf? r).map fun t => { m with time := t } := by
  obtain ⟨_, time₀, shape₀⟩ := among₀
  obtain ⟨_, time, shape⟩ := among
  obtain ⟨named, names₀⟩ := exists_named shape₀ valid
  obtain ⟨b, name, a, rfl, front, same, back⟩ := named_append_cons_iff.1 names₀
  obtain rfl : name = "time" := Option.some.inj (same.symm.trans time₀)
  have names : Named _ (b ++ ("time", r) :: a) := named_append_cons_iff.2 ⟨b, _, a, rfl, front, time, back⟩
  rw [ofPayload?_of_named shape₀ names₀, Option.ite_none_right_eq_some] at valid
  obtain ⟨once, read⟩ := valid
  have there : (b ++ ("time", r) :: a).lookup "time" = some r := by
    have single : (b ++ ("time", r) :: a).countP (·.1 == "time") ≤ 1 := by
      rw [@countP_replaced r r₀]
      exact of_decide_eq_true (List.all_eq_true.1 once "time" (by decide))
    exact (lookup_eq_some_iff_mem single).2 (by simp)
  rw [ofPayload?_of_named shape names]
  simp only [@countP_replaced r r₀]
  rw [if_pos once]
  exact ofMembers?_eq_map_time (fun name other => lookup_replaced other) there read

/-- **Times are read exactly.** A message whose time is given as a number of 64 bits has this number as its time,
however it is written. A number that is out of range makes the message unreadable, and so does a value that gives none. -/
theorem time_read_exactly (valid : ofPayload? p₀ = some m) (among₀ : TimeAmong before after r₀ p₀)
    (among : TimeAmong before after r p) :
    (∀ t : Int64, Gives r t.toInt → ofPayload? p = some { m with time := t }) ∧
      (∀ i, Gives r i → i < -2 ^ 63 ∨ 2 ^ 63 ≤ i → ofPayload? p = none) ∧
      ((∀ i, ¬ Gives r i) → ofPayload? p = none) := by
  have read := ofPayload?_eq_map_time valid among₀ among
  refine ⟨fun t gives => ?_, fun i gives outside => ?_, fun nothing => ?_⟩
  · rw [read, timeOf?_eq_some_iff_gives.2 gives, Option.map_some]
  · have unread : timeOf? r = none := by
      refine timeOf?_eq_none_iff.2 fun t gives' => ?_
      have least := t.le_toInt
      have greatest := t.toInt_lt
      rw [gives'.unique gives] at least greatest
      omega
    rw [read, unread, Option.map_none]
  · rw [read, timeOf?_eq_none_iff.2 fun t => nothing t.toInt, Option.map_none]

/-- A message with the text of a time. -/
def dated (time : String) : Payload :=
  writeStrings [("input", "a"), ("type", "web"), ("target", "h"), ("result", "passed"), ("time", time)]

theorem timeAmong_dated (time : String) : TimeAmong
    [(piecesOf "input", .string (piecesOf "a")), (piecesOf "type", .string (piecesOf "web")),
      (piecesOf "target", .string (piecesOf "h")), (piecesOf "result", .string (piecesOf "passed"))]
    [] (.string (piecesOf time)) (dated time) := by
  refine ⟨piecesOf "time", text?_piecesOf "time", ?_⟩
  rw [dated, writeStrings_eq]
  exact ofPayload?_writeObject (by simp)

/-- The least time is read, and the one after the greatest is not. -/
theorem time_at_limits :
    ofPayload? (dated "\t-09223372036854775808 ") = some ⟨"a", "web", "h", .passed, none, Int64.minValue⟩ ∧
      ofPayload? (dated "9223372036854775808") = none := by
  have valid : ofPayload? (dated "0") = some ⟨"a", "web", "h", .passed, none, 0⟩ := by decide +kernel
  constructor
  · have digits : Writes "09223372036854775808".toList 9223372036854775808 := by decide +kernel
    have padded : Padded ('-' :: "09223372036854775808".toList) "\t-09223372036854775808 ".toList :=
      ⟨['\t'], [' '], by decide, by decide, by decide⟩
    exact (time_read_exactly valid (timeAmong_dated "0") (timeAmong_dated _)).1 Int64.minValue
      (.text (isText_piecesOf _) (.minus digits) padded)
  · have digits : Writes "9223372036854775808".toList 9223372036854775808 := by decide +kernel
    exact (time_read_exactly valid (timeAmong_dated "0") (timeAmong_dated _)).2.1 9223372036854775808
      (.text (isText_piecesOf _) (.bare digits) (.refl _)) (by decide)

end Lookout.ResultMessage
