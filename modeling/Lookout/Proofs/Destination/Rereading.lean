import Lookout.Proofs.Destination.Spelling

/-!
# Destinations read again

Whether a destination is read again from its text. Every destination that can be written both with brackets and without
is. A closing bracket in a name is let through in front of an opening one, and refused where no opening one follows: a
destination with such a name and no conditions can be read, but its text cannot.
-/

namespace Lookout.Destination
set_option autoImplicit false
open Text

variable {d : Destination} {spec : String}

theorem places_texts (cs : List Clause) : Places cs (cs.map fun c => c.text.toList) := by
  induction cs with
  | nil => exact .nil
  | cons c cs ih => exact .clause c.spelled_text ih

theorem toList_text_of_clauses (nonempty : d.clauses ≠ []) : d.text.toList =
    d.queue.toList ++ '[' :: ([','].intercalate (d.clauses.map fun c => c.text.toList) ++ [']']) := by
  rw [text, if_neg (by simpa using nonempty)]
  simp [Function.comp_def]

/-- The text of a destination is one of its spellings if its name can stand alone or does not have to. -/
theorem spelled_text (closed : d.clauses = [] → ']' ∉ d.queue.toList) : d.Spelled d.text.toList := by
  by_cases every : d.clauses = []
  · have alone : d.text = d.queue := by rw [text, every]; rfl
    rw [alone]
    exact .bare every (closed every) (.refl _)
  · rw [toList_text_of_clauses every]
    exact .bracketed (.refl _) (by simpa using every) (places_texts _) (by simp [AllBlank])

/-- **Every destination that can be written is read from what is written**: from its text, and from all its spellings
and nothing else. -/
theorem expressible_read (expressible : d.Expressible) :
    ofText d.text = .ok d ∧ ∀ spec, ofText spec = .ok d ↔ d.Spelled spec.toList := by
  have read : ∀ spec, ofText spec = .ok d ↔ d.Spelled spec.toList := by
    intro spec
    rw [ofText_eq_ok_iff]
    exact and_iff_right expressible.toRegular
  exact ⟨(read d.text).2 (spelled_text fun _ => expressible.noClosing), read⟩

/-- A name, a value with an equals sign and an opening bracket in it, an empty value, empty places and blanks. -/
theorem alerts_read :
    let alerts : Destination := ⟨"alerts", [⟨"input", "a=[b"⟩, ⟨"error", ""⟩]⟩
    alerts.Expressible ∧ alerts.text = "alerts[input=a=[b,error=]" ∧
      ofText "\u3000alerts [ , input = a=[b,,error=\t] " = .ok alerts := by
  intro alerts
  have expressible : alerts.Expressible := by decide
  have inner : Clause.Spelled ⟨"input", "a=[b"⟩ " input = a=[b".toList :=
    ⟨" input ".toList, " a=[b".toList, ⟨[' '], [' '], by decide, by decide, by decide⟩,
      ⟨[' '], [], by decide, by decide, by decide⟩, by decide⟩
  have last : Clause.Spelled ⟨"error", ""⟩ "error=\t".toList :=
    ⟨"error".toList, "\t".toList, .refl _, ⟨['\t'], [], by decide, by decide, by decide⟩, by decide⟩
  have places : Places alerts.clauses [" ".toList, " input = a=[b".toList, [], "error=\t".toList] :=
    .empty (by decide) (.clause inner (.empty (by decide) (.clause last .nil)))
  have form : "\u3000alerts [ , input = a=[b,,error=\t] ".toList = "\u3000alerts ".toList ++
      '[' :: ([','].intercalate [" ".toList, " input = a=[b".toList, [], "error=\t".toList] ++ ']' :: " ".toList) := by
    decide
  have spelled : alerts.Spelled "\u3000alerts [ , input = a=[b,,error=\t] ".toList := by
    rw [form]
    exact .bracketed ⟨['\u3000'], [' '], by decide, by decide, by decide⟩ (by simp) places (by decide)
  exact ⟨expressible, by decide, ((expressible_read expressible).2 _).2 spelled⟩

/-- A name that stands alone is refused if it has a closing bracket. -/
theorem ofText_queue_of_mem (regular : d.Regular) (closing : ']' ∈ d.queue.toList) :
    ofText d.queue = .error (.trailingText d.queue) := by
  have nonempty : d.queue.toList ≠ [] := fun empty => regular.nonempty (String.toList_inj.1 empty)
  rw [ofText, regular.trimmed, ofTrimmed, splitOnce_eq_none_iff.2 regular.noOpening]
  simp [nonempty, closing]

/-- **When a destination is read again from its text**: unless it has no conditions and a closing bracket in its name.
Then its text is refused. -/
theorem reread_iff (read : ofText spec = .ok d) :
    (ofText d.text = .ok d ↔ ¬ (d.clauses = [] ∧ ']' ∈ d.queue.toList)) ∧
      (d.clauses = [] → ']' ∈ d.queue.toList → ofText d.text = .error (.trailingText d.queue)) := by
  have regular := (ofText_eq_ok_iff.1 read).1
  have refused : d.clauses = [] → ']' ∈ d.queue.toList → ofText d.text = .error (.trailingText d.queue) := by
    intro every closing
    have alone : d.text = d.queue := by rw [text, every]; rfl
    rw [alone]
    exact ofText_queue_of_mem regular closing
  refine ⟨⟨?_, fun closed => ?_⟩, refused⟩
  · rintro again ⟨every, closing⟩
    cases again.symm.trans (refused every closing)
  · exact ofText_eq_ok_iff.2 ⟨regular, spelled_text fun every closing => closed ⟨every, closing⟩⟩

/-- With a condition behind it a name may have a closing bracket in it. -/
theorem bracketed_name_reread :
    let d : Destination := ⟨"a]", [⟨"x", "y"⟩]⟩
    ofText "a] [ x = y ]" = .ok d ∧ ofText d.text = .ok d := by
  intro d
  have read : ofText "a] [ x = y ]" = .ok d := by decide
  exact ⟨read, (reread_iff read).1.2 (by decide)⟩

/-- The brackets without a condition are lost, and with them the end of the name. -/
theorem closing_bracket_lost :
    let d : Destination := ⟨"a]", []⟩
    ofText "a][]" = .ok d ∧ d.text = "a]" ∧ ofText d.text = .error (.trailingText "a]") := by
  decide

end Lookout.Destination
