import Lookout.Proofs.Toml.Numbers
import Lookout.Proofs.Toml.Strings

/-!
# TOML values read back

Strings, whole numbers, booleans and arrays of strings are read as themselves where they end a line. An array is read
item by item, whether it is on one line or has a line for each item, with as much fuel as it is long.
-/

namespace Lookout.Toml
set_option autoImplicit false
open Text

variable {t rest : List Char} {text : String} {v : Value}

/-- A value in writing. At the end of a line it is read as the value. -/
structure Spells (text : String) (v : Value) : Prop where
  first : ∃ c r, text.toList = c :: r ∧ isBlank c = false
  read : ∀ rest, readValue maxDepth (text.toList ++ '\n' :: rest) = some (v, '\n' :: rest)

theorem readValue_writeString (depth : Nat) (s : String) (double : rest.head? ≠ some '"')
    (single : rest.head? ≠ some '\'') : readValue depth ((writeString s).toList ++ rest) = some (.string s, rest) := by
  obtain ⟨quote, body, written, quoted, read⟩ := readString_written s double single
  rw [written, List.cons_append]
  rcases quoted with rfl | rfl
  all_goals simp [readValue, read]

theorem spells_writeString (s : String) : Spells (writeString s) (.string s) where
  first := by
    obtain ⟨quote, body, written, quoted, -⟩ := @readString_written [] s (by simp) (by simp)
    refine ⟨quote, body, written, ?_⟩
    rcases quoted with rfl | rfl <;> rfl
  read rest := readValue_writeString maxDepth s (by simp) (by simp)

theorem spells_toString {i : Int} (low : -(maxInt64 + 1 : Int) ≤ i) (high : i ≤ maxInt64) :
    Spells (toString i) (.integer i) where
  first := by
    have digit : ∀ n : Nat, ∃ c r, (toString n).toList = c :: r ∧ isBlank c = false := by
      intro n
      obtain ⟨c, ds, digits, numeric⟩ := exists_toDigits_eq_cons n
      refine ⟨c, ds, by rw [toList_toString, digits], ?_⟩
      cases blank : isBlank c with
      | false => rfl
      | true =>
        simp only [isBlank, Bool.or_eq_true, beq_iff_eq] at blank
        rcases blank with rfl | rfl <;> cases numeric
    cases i with
    | ofNat n => exact digit n
    | negSucc n =>
      have written : (toString (Int.negSucc n)).toList = '-' :: (toString (n + 1)).toList := by
        change ("-" ++ toString (n + 1)).toList = _
        simp
      exact ⟨'-', _, written, rfl⟩
  read rest := readValue_integer maxDepth low high rest

theorem spells_writeBool (b : Bool) : Spells (writeBool b) (.boolean b) := by
  cases b
  · exact ⟨⟨'f', _, rfl, rfl⟩, fun rest => by simp [writeBool, readValue]⟩
  · exact ⟨⟨'t', _, rfl, rfl⟩, fun rest => by simp [writeBool, readValue]⟩

theorem skipFiller_writeString (s : String) (rest : List Char) :
    skipFiller false ((writeString s).toList ++ rest) = some ((writeString s).toList ++ rest) := by
  obtain ⟨quote, body, written, quoted, -⟩ := @readString_written [] s (by simp) (by simp)
  rw [written, List.cons_append]
  rcases quoted with rfl | rfl <;> simp [skipFiller, isBlank]

/-- An item of an array that is a string, and a comma. -/
theorem readItems_comma {depth fuel : Nat} {s : String} {r : List Char}
    (start : skipFiller false t = some ((writeString s).toList ++ ',' :: r)) :
    readItems (readValue depth) (fuel + 1) t =
      (readItems (readValue depth) fuel r).map fun p => (.string s :: p.1, p.2) := by
  have value : readValue depth ((writeString s).toList ++ ',' :: r) = some (.string s, ',' :: r) :=
    readValue_writeString depth s (by simp) (by simp)
  obtain ⟨quote, body, written, quoted, -⟩ := @readString_written [] s (by simp) (by simp)
  rw [written, List.cons_append] at start value
  rw [readItems, start]
  rcases quoted with rfl | rfl
  all_goals simp [value, skipFiller, isBlank]

/-- The last item of an array, if it is a string. -/
theorem readItems_last {depth fuel : Nat} {s : String} {r : List Char}
    (start : skipFiller false t = some ((writeString s).toList ++ ']' :: r)) :
    readItems (readValue depth) (fuel + 1) t = some ([.string s], r) := by
  have value : readValue depth ((writeString s).toList ++ ']' :: r) = some (.string s, ']' :: r) :=
    readValue_writeString depth s (by simp) (by simp)
  obtain ⟨quote, body, written, quoted, -⟩ := @readString_written [] s (by simp) (by simp)
  rw [written, List.cons_append] at start value
  rw [readItems, start]
  rcases quoted with rfl | rfl
  all_goals simp [value, skipFiller, isBlank]

/-- Strings one after the other, each on a line of its own. -/
def itemLines (ss : List String) : List Char :=
  ss.flatMap fun s => "    ".toList ++ (writeString s).toList ++ ",\n".toList

theorem readItems_itemLines (depth : Nat) {fuel : Nat} {ss : List String} (rest : List Char)
    (enough : ss.length < fuel) :
    readItems (readValue depth) fuel ('\n' :: (itemLines ss ++ ']' :: rest)) = some (ss.map .string, rest) := by
  induction ss generalizing fuel with
  | nil =>
    obtain ⟨fuel, rfl⟩ := Nat.exists_eq_add_one.2 enough
    simp [itemLines, readItems, skipFiller, isBlank]
  | cons s ss ih =>
    obtain ⟨fuel, rfl⟩ := Nat.exists_eq_add_one.2 (Nat.zero_lt_of_lt enough)
    have start : skipFiller false ('\n' :: (itemLines (s :: ss) ++ ']' :: rest)) =
        some ((writeString s).toList ++ ',' :: '\n' :: (itemLines ss ++ ']' :: rest)) := by
      have solid := skipFiller_writeString s (',' :: '\n' :: (itemLines ss ++ ']' :: rest))
      simpa [itemLines, skipFiller, isBlank] using solid
    rw [readItems_comma start, ih (Nat.lt_of_succ_lt_succ enough)]
    rfl

theorem length_le_itemLines (ss : List String) : ss.length ≤ (itemLines ss).length := by
  induction ss with
  | nil => exact Nat.zero_le _
  | cons s ss ih =>
    have first : 1 ≤ ",\n".toList.length := by decide
    simp only [itemLines, List.flatMap_cons, List.length_append, List.length_cons] at ih ⊢
    omega

theorem toList_writeStrings (s s' : String) (ss : List String) :
    (writeStrings (s :: s' :: ss)).toList = '[' :: '\n' :: (itemLines (s :: s' :: ss) ++ [']']) := by
  have opening : "[\n".toList = ['[', '\n'] := rfl
  have close : "]".toList = [']'] := rfl
  simp only [writeStrings, String.toList_append, String.toList_join, List.flatMap_map, opening, close, itemLines,
    List.cons_append, List.nil_append]

theorem readValue_array (r : List Char) : readValue maxDepth ('[' :: r) =
    (readItems (readValue (maxDepth - 1)) r.length r).map fun p => (.array p.1, p.2) := by
  simp [maxDepth, readValue]

theorem spells_writeStrings_singleton (s : String) : Spells (writeStrings [s]) (.array [.string s]) := by
  have written : (writeStrings [s]).toList = '[' :: ((writeString s).toList ++ [']']) := by simp [writeStrings]
  refine ⟨⟨'[', _, written, rfl⟩, fun rest => ?_⟩
  have long : ((writeString s).toList ++ ']' :: '\n' :: rest).length =
      ((writeString s).toList ++ '\n' :: rest).length + 1 := by
    simp only [List.length_append, List.length_cons]
    omega
  rw [written, List.cons_append, readValue_array, List.append_assoc, List.singleton_append, long,
    readItems_last (skipFiller_writeString s _)]
  rfl

theorem spells_writeStrings_cons_cons (s s' : String) (ss : List String) :
    Spells (writeStrings (s :: s' :: ss)) (.array ((s :: s' :: ss).map .string)) := by
  refine ⟨⟨'[', _, toList_writeStrings s s' ss, rfl⟩, fun rest => ?_⟩
  have long := length_le_itemLines (s :: s' :: ss)
  have enough : (s :: s' :: ss).length < ('\n' :: (itemLines (s :: s' :: ss) ++ ']' :: '\n' :: rest)).length := by
    simp only [List.length_cons, List.length_append] at long ⊢
    omega
  rw [toList_writeStrings, List.cons_append, readValue_array, List.cons_append, List.append_assoc,
    List.singleton_append, readItems_itemLines _ _ enough]
  rfl

theorem spells_writeStrings (ss : List String) : Spells (writeStrings ss) (.array (ss.map .string)) := by
  rcases ss with _ | ⟨s, _ | ⟨s', ss⟩⟩
  · exact ⟨⟨'[', _, rfl, rfl⟩, fun rest => by simp [writeStrings, readValue_array, readItems, skipFiller, isBlank]⟩
  · exact spells_writeStrings_singleton s
  · exact spells_writeStrings_cons_cons s s' ss

end Lookout.Toml
