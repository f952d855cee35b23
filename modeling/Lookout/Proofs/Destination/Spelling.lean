import Lookout.Destination
import Lookout.Proofs.Text.Joining
import Lookout.Proofs.Text.Trimming

/-!
# Destinations in writing

How destinations are written: blanks may stand around the whole, the name, every condition and both sides of it, and
places between two commas may be left empty. Reading accepts just the destinations that are written in one of these
ways. A destination that was read is read again from its own text, unless its name ends a pair of brackets that its
text leaves out.
-/

namespace Lookout
set_option autoImplicit false
open Text

namespace Clause

/-- A condition that can be written. -/
structure Expressible (c : Clause) : Prop where
  nonempty : c.field ≠ ""
  field_trimmed : trim c.field.toList = c.field.toList
  value_trimmed : trim c.value.toList = c.value.toList
  noEquals : '=' ∉ c.field.toList
  noComma : ',' ∉ c.field.toList ∧ ',' ∉ c.value.toList
  noClosing : ']' ∉ c.field.toList ∧ ']' ∉ c.value.toList

instance : DecidablePred Expressible := fun c =>
  decidable_of_iff
    (c.field ≠ "" ∧ trim c.field.toList = c.field.toList ∧ trim c.value.toList = c.value.toList ∧
      '=' ∉ c.field.toList ∧ (',' ∉ c.field.toList ∧ ',' ∉ c.value.toList) ∧
      (']' ∉ c.field.toList ∧ ']' ∉ c.value.toList))
    ⟨fun ⟨nonempty, field, value, noEquals, noComma, noClosing⟩ =>
        ⟨nonempty, field, value, noEquals, noComma, noClosing⟩,
      fun e => ⟨e.nonempty, e.field_trimmed, e.value_trimmed, e.noEquals, e.noComma, e.noClosing⟩⟩

/-- The condition in writing, with blanks around both of its sides. -/
def Spelled (c : Clause) (t : List Char) : Prop :=
  ∃ field value, Padded c.field.toList field ∧ Padded c.value.toList value ∧ t = field ++ '=' :: value

variable {c : Clause} {t : List Char}

/-- A condition is cut at its first equals sign, whatever blanks are around it. -/
theorem ofText_trim (field value : List Char) (first : '=' ∉ field) :
    ofText (trim (field ++ '=' :: value)) =
      if trim field = [] then .error (.invalidClause (String.ofList (trim (field ++ '=' :: value))))
      else .ok ⟨String.ofList (trim field), String.ofList (trim value)⟩ := by
  have form : trim (field ++ '=' :: value) = trimStart field ++ '=' :: trimEnd value := trim_append_cons (by decide)
  have other : '=' ∉ trimStart field := fun mem => first ((List.dropWhile_suffix _).subset mem)
  rw [ofText, form, splitOnce_append other]
  simp only [List.isEmpty_iff, trim_trimStart, trim_trimEnd]

theorem ofText_trim_eq_ok_iff (noComma : ',' ∉ t) (noClosing : ']' ∉ t) :
    ofText (trim t) = .ok c ↔ c.Expressible ∧ c.Spelled t := by
  cases cut : splitOnce '=' t with
  | none =>
    have absent := splitOnce_eq_none_iff.1 cut
    have whole : splitOnce '=' (trim t) = none := splitOnce_eq_none_iff.2 (not_mem_trim absent)
    constructor
    · intro read
      simp [ofText, whole] at read
    · rintro ⟨-, field, value, -, -, rfl⟩
      simp at absent
  | some parts =>
    obtain ⟨field, value⟩ := parts
    obtain ⟨rfl, first⟩ := splitOnce_eq_some cut
    rw [ofText_trim field value first]
    constructor
    · intro read
      split at read
      · cases read
      · next nonempty =>
        obtain rfl := Except.ok.inj read
        simp only [List.mem_append, List.mem_cons, not_or] at noComma noClosing
        refine ⟨⟨?_, ?_, ?_, ?_, ?_, ?_⟩, field, value, ?_, ?_, rfl⟩
        · simpa [← String.toList_inj] using nonempty
        · simpa using trim_trim field
        · simpa using trim_trim value
        · simpa using not_mem_trim first
        · simpa using ⟨not_mem_trim noComma.1, not_mem_trim noComma.2.2⟩
        · simpa using ⟨not_mem_trim noClosing.1, not_mem_trim noClosing.2.2⟩
        · simpa using padded_trim field
        · simpa using padded_trim value
    · rintro ⟨expressible, field', value', left, right, same⟩
      have first' : '=' ∉ field' := fun mem => expressible.noEquals ((left.mem_iff (by decide)).1 mem)
      obtain ⟨rfl, rfl⟩ := split_first first first' same
      have nonempty : c.field.toList ≠ [] := fun empty => expressible.nonempty (String.toList_inj.1 empty)
      rw [left.trim_eq, right.trim_eq, expressible.field_trimmed, expressible.value_trimmed, if_neg nonempty]
      simp

/-- A condition in writing has no characters besides its own, an equals sign and blanks. -/
theorem Spelled.not_mem {x : Char} (spelled : c.Spelled t) (visible : isBlank x = false) (equals : x ≠ '=')
    (field : x ∉ c.field.toList) (value : x ∉ c.value.toList) : x ∉ t := by
  obtain ⟨left, right, padded, padded', rfl⟩ := spelled
  simp [padded.mem_iff visible, padded'.mem_iff visible, field, value, equals]

theorem Spelled.not_allBlank (spelled : c.Spelled t) : ¬ AllBlank t := by
  obtain ⟨left, right, -, -, rfl⟩ := spelled
  intro blank
  have equals : isBlank '=' = true := blank '=' (by simp)
  exact absurd equals (by decide)

theorem spelled_text (c : Clause) : c.Spelled c.text.toList :=
  ⟨_, _, .refl _, .refl _, by simp [text]⟩

end Clause

namespace Destination

/-- What stands between commas: the conditions in their order, and any number of empty places. -/
inductive Places : List Clause → List (List Char) → Prop where
  | nil : Places [] []
  | empty {cs : List Clause} {ts : List (List Char)} {w : List Char} (blank : AllBlank w) (later : Places cs ts) :
      Places cs (w :: ts)
  | clause {c : Clause} {cs : List Clause} {ts : List (List Char)} {t : List Char} (spelled : c.Spelled t)
      (later : Places cs ts) : Places (c :: cs) (t :: ts)

/-- A destination that can be read. -/
structure Regular (d : Destination) : Prop where
  nonempty : d.queue ≠ ""
  trimmed : trim d.queue.toList = d.queue.toList
  noOpening : '[' ∉ d.queue.toList
  clauses : ∀ c ∈ d.clauses, c.Expressible

/-- A destination that can be written with brackets and, if it has no conditions, without. -/
structure Expressible (d : Destination) : Prop extends Regular d where
  noClosing : ']' ∉ d.queue.toList

instance : DecidablePred Expressible := fun d =>
  decidable_of_iff
    (d.queue ≠ "" ∧ trim d.queue.toList = d.queue.toList ∧ '[' ∉ d.queue.toList ∧
      (∀ c ∈ d.clauses, c.Expressible) ∧ ']' ∉ d.queue.toList)
    ⟨fun ⟨nonempty, trimmed, noOpening, clauses, noClosing⟩ => ⟨⟨nonempty, trimmed, noOpening, clauses⟩, noClosing⟩,
      fun e => ⟨e.nonempty, e.trimmed, e.noOpening, e.clauses, e.noClosing⟩⟩

/-- The destination in writing. Without brackets its name must have no closing bracket. -/
inductive Spelled (d : Destination) : List Char → Prop where
  | bare {name : List Char} (every : d.clauses = []) (noClosing : ']' ∉ d.queue.toList)
      (named : Padded d.queue.toList name) : Spelled d name
  | bracketed {name after : List Char} {places : List (List Char)} (named : Padded d.queue.toList name)
      (someplace : places ≠ []) (listed : Places d.clauses places) (blank : AllBlank after) :
      Spelled d (name ++ '[' :: ([','].intercalate places ++ ']' :: after))

variable {d : Destination} {cs : List Clause} {places : List (List Char)} {body s : List Char}

/-- The places hold no comma and no closing bracket. -/
theorem Places.separate (listed : Places cs places) (clauses : ∀ c ∈ cs, c.Expressible) :
    ∀ p ∈ places, ',' ∉ p ∧ ']' ∉ p := by
  induction listed with
  | nil => simp
  | empty blank later ih =>
    have visible : ∀ x, isBlank x = false → x ∉ _ := fun x seen mem => by
      rw [blank x mem] at seen
      cases seen
    exact List.forall_mem_cons.2 ⟨⟨visible _ (by decide), visible _ (by decide)⟩, ih clauses⟩
  | clause spelled later ih =>
    rw [List.forall_mem_cons] at clauses
    obtain ⟨expressible, others⟩ := clauses
    refine List.forall_mem_cons.2 ⟨⟨?_, ?_⟩, ih others⟩
    · exact spelled.not_mem (by decide) (by decide) expressible.noComma.1 expressible.noComma.2
    · exact spelled.not_mem (by decide) (by decide) expressible.noClosing.1 expressible.noClosing.2

theorem mapM_cons_eq_ok_iff {α β ε : Type} {f : α → Except ε β} {a : α} {as : List α} {ys : List β} :
    (a :: as).mapM f = .ok ys ↔ ∃ y zs, f a = .ok y ∧ as.mapM f = .ok zs ∧ ys = y :: zs := by
  rw [List.mapM_cons]
  cases f a with
  | error e => simp [bind, Except.bind]
  | ok y =>
    cases as.mapM f with
    | error e => simp [bind, Except.bind]
    | ok zs => simp [bind, Except.bind, pure, Except.pure, eq_comm]

/-- Places are read one by one; what is blank is passed over. -/
theorem mapM_places (separate : ∀ p ∈ places, ',' ∉ p ∧ ']' ∉ p) :
    ((places.map trim).filter (!·.isEmpty)).mapM Clause.ofText = .ok cs ↔
      Places cs places ∧ ∀ c ∈ cs, c.Expressible := by
  induction places generalizing cs with
  | nil =>
    constructor
    · intro read
      obtain rfl := Except.ok.inj read
      exact ⟨.nil, by simp⟩
    · rintro ⟨⟨⟩, -⟩
      rfl
  | cons p places ih =>
    rw [List.forall_mem_cons] at separate
    obtain ⟨here, others⟩ := separate
    by_cases blank : AllBlank p
    · have empty : trim p = [] := trim_eq_nil_iff.2 blank
      rw [List.map_cons, empty, List.filter_cons_of_neg (by simp), ih others]
      refine and_congr_left fun _ => ⟨fun listed => .empty blank listed, fun listed => ?_⟩
      cases listed with
      | empty _ later => exact later
      | clause spelled later => exact absurd blank spelled.not_allBlank
    · have visible : trim p ≠ [] := fun empty => blank (trim_eq_nil_iff.1 empty)
      rw [List.map_cons, List.filter_cons_of_pos (by simpa using visible), mapM_cons_eq_ok_iff]
      constructor
      · rintro ⟨c, cs, read, rest, rfl⟩
        obtain ⟨expressible, spelled⟩ := (Clause.ofText_trim_eq_ok_iff here.1 here.2).1 read
        obtain ⟨later, all⟩ := (ih others).1 rest
        exact ⟨.clause spelled later, List.forall_mem_cons.2 ⟨expressible, all⟩⟩
      · rintro ⟨listed, all⟩
        cases listed with
        | empty blank' _ => exact absurd blank' blank
        | clause spelled later =>
          rw [List.forall_mem_cons] at all
          exact ⟨_, _, (Clause.ofText_trim_eq_ok_iff here.1 here.2).2 ⟨all.1, spelled⟩,
            (ih others).2 ⟨later, all.2⟩, rfl⟩

/-- What stands between the brackets. -/
theorem readClauses_eq_ok_iff (noClosing : ']' ∉ body) :
    readClauses body = .ok cs ↔
      (∃ places, places ≠ [] ∧ Places cs places ∧ body = [','].intercalate places) ∧ ∀ c ∈ cs, c.Expressible := by
  constructor
  · intro read
    obtain ⟨someplace, noComma, whole⟩ := splitAt_eq_iff.1 (Eq.refl (splitAt ',' body))
    have separate : ∀ p ∈ splitAt ',' body, ',' ∉ p ∧ ']' ∉ p := by
      intro p mem
      refine ⟨noComma p mem, fun inside => noClosing ?_⟩
      rw [whole]
      exact (infix_intercalate [','] mem).subset inside
    obtain ⟨listed, all⟩ := (mapM_places separate).1 read
    exact ⟨⟨_, someplace, listed, whole⟩, all⟩
  · rintro ⟨⟨places, someplace, listed, whole⟩, all⟩
    have separate := listed.separate all
    have pieces : splitAt ',' body = places := splitAt_eq_iff.2 ⟨someplace, fun p mem => (separate p mem).1, whole⟩
    rw [readClauses, pieces]
    exact (mapM_places separate).2 ⟨listed, all⟩

/-- Without an opening bracket the whole text is the name. -/
theorem ofTrimmed_of_not_mem (noOpening : '[' ∉ s) (trimmed : trim s = s) :
    ofTrimmed s = .ok d ↔ d.Regular ∧ d.clauses = [] ∧ ']' ∉ d.queue.toList ∧ d.queue.toList = s := by
  rw [ofTrimmed, splitOnce_eq_none_iff.2 noOpening]
  constructor
  · intro read
    simp only [List.isEmpty_iff] at read
    split at read
    · cases read
    · next nonempty =>
      split at read
      · cases read
      · next noClosing =>
        obtain rfl := Except.ok.inj read
        refine ⟨⟨?_, by simpa using trimmed, by simpa using noOpening, by simp⟩, rfl, by simpa using noClosing, by simp⟩
        simpa [← String.toList_inj] using nonempty
  · rintro ⟨regular, every, noClosing, rfl⟩
    obtain ⟨queue, clauses⟩ := d
    obtain rfl : clauses = [] := every
    have nonempty : queue.toList ≠ [] := fun empty => regular.nonempty (String.toList_inj.1 empty)
    simp [nonempty, noClosing]

/-- With an opening bracket the name ends there, and nothing comes after the closing bracket. -/
theorem ofTrimmed_of_opening {name rest : List Char} (noOpening : '[' ∉ name) :
    ofTrimmed (name ++ '[' :: rest) = .ok d ↔ d.Regular ∧ d.queue.toList = trim name ∧
      ∃ places after, places ≠ [] ∧ Places d.clauses places ∧ AllBlank after ∧
        rest = [','].intercalate places ++ ']' :: after := by
  rw [ofTrimmed, splitOnce_append noOpening]
  simp only [List.isEmpty_iff]
  constructor
  · intro read
    split at read
    · cases read
    · next nonempty =>
      split at read
      · cases read
      · next body after cut =>
        obtain ⟨rfl, noClosing⟩ := splitOnce_eq_some cut
        split at read
        · next blank =>
          cases given : readClauses body with
          | error e => simp [given, Except.map] at read
          | ok cs =>
            rw [given] at read
            obtain rfl := Except.ok.inj read
            obtain ⟨⟨places, someplace, listed, rfl⟩, all⟩ := (readClauses_eq_ok_iff noClosing).1 given
            refine ⟨⟨?_, by simpa using trim_trim name, by simpa using not_mem_trim noOpening, all⟩, by simp,
              places, after, someplace, listed, trim_eq_nil_iff.1 blank, rfl⟩
            simpa [← String.toList_inj] using nonempty
        · cases read
  · rintro ⟨regular, named, places, after, someplace, listed, blank, rfl⟩
    have noClosing : ']' ∉ [','].intercalate places :=
      not_mem_intercalate (by decide) fun p mem => (listed.separate regular.clauses p mem).2
    have nonempty : trim name ≠ [] := by
      rw [← named]
      exact fun empty => regular.nonempty (String.toList_inj.1 empty)
    have given : readClauses ([','].intercalate places) = .ok d.clauses :=
      (readClauses_eq_ok_iff noClosing).2 ⟨⟨places, someplace, listed, rfl⟩, regular.clauses⟩
    rw [if_neg nonempty, splitOnce_append noClosing]
    simp only [if_pos (trim_eq_nil_iff.2 blank), given, Except.map, ← named, String.ofList_toList]

theorem spelled_iff_of_not_mem (regular : d.Regular) (noOpening : '[' ∉ s) :
    d.Spelled s ↔ d.clauses = [] ∧ ']' ∉ d.queue.toList ∧ d.queue.toList = trim s := by
  constructor
  · intro spelled
    cases spelled with
    | bare every noClosing named => exact ⟨every, noClosing, (trim_eq_iff.2 ⟨regular.trimmed, named⟩).symm⟩
    | bracketed named someplace listed blank => simp at noOpening
  · rintro ⟨every, noClosing, whole⟩
    exact .bare every noClosing (whole ▸ padded_trim s)

theorem spelled_iff_of_opening {front back : List Char} (regular : d.Regular) (noOpening : '[' ∉ front) :
    d.Spelled (front ++ '[' :: back) ↔ d.queue.toList = trim front ∧
      ∃ places after, places ≠ [] ∧ Places d.clauses places ∧ AllBlank after ∧
        trimEnd back = [','].intercalate places ++ ']' :: after := by
  constructor
  · generalize whole : front ++ '[' :: back = s
    intro spelled
    cases spelled with
    | bare every noClosing named =>
      have mem : '[' ∈ d.queue.toList := (named.mem_iff (by decide)).1 (whole ▸ by simp)
      exact absurd mem regular.noOpening
    | @bracketed name after places named someplace listed blank =>
      have other : '[' ∉ name := fun mem => regular.noOpening ((named.mem_iff (by decide)).1 mem)
      obtain ⟨rfl, rfl⟩ := split_first noOpening other whole
      obtain ⟨w, -, rest⟩ := exists_trimEnd after
      refine ⟨(trim_eq_iff.2 ⟨regular.trimmed, named⟩).symm, places, trimEnd after, someplace, listed, ?_,
        trimEnd_append_cons (by decide)⟩
      exact (allBlank_append_iff.1 (rest ▸ blank)).1
  · rintro ⟨named, places, after, someplace, listed, blank, last⟩
    obtain ⟨w, blank', rest⟩ := exists_trimEnd back
    have whole : back = [','].intercalate places ++ ']' :: (after ++ w) := by
      rw [rest, last, List.append_assoc, List.cons_append]
    rw [whole]
    exact .bracketed (named ▸ padded_trim front) someplace listed (allBlank_append_iff.2 ⟨blank, blank'⟩)

/-- **Reading accepts just what is written** in one of the ways in which a destination is written. -/
theorem ofText_eq_ok_iff {spec : String} : ofText spec = .ok d ↔ d.Regular ∧ d.Spelled spec.toList := by
  rw [ofText]
  generalize spec.toList = s
  cases cut : splitOnce '[' s with
  | none =>
    have noOpening := splitOnce_eq_none_iff.1 cut
    rw [ofTrimmed_of_not_mem (not_mem_trim noOpening) (trim_trim s)]
    exact and_congr_right fun regular => (spelled_iff_of_not_mem regular noOpening).symm
  | some parts =>
    obtain ⟨front, back⟩ := parts
    obtain ⟨rfl, noOpening⟩ := splitOnce_eq_some cut
    have other : '[' ∉ trimStart front := fun mem => noOpening ((List.dropWhile_suffix _).subset mem)
    rw [trim_append_cons (by decide), ofTrimmed_of_opening other, trim_trimStart]
    exact and_congr_right fun regular => (spelled_iff_of_opening regular noOpening).symm

end Destination

end Lookout
