import Lookout.Text.Blank
import Mathlib.Data.List.Infix
import Mathlib.Data.List.TakeWhile

/-!
# What is trimmed

Trimming takes the blanks off both ends of a text and leaves the text itself: it is the only one that begins and ends
with no blank, and of which the text is made by putting blanks around it.
-/

namespace Lookout.Text
set_option autoImplicit false

/-- A text of blanks only. -/
def AllBlank (w : List Char) : Prop :=
  ∀ c ∈ w, isBlank c = true

instance : DecidablePred AllBlank := fun w =>
  decidable_of_iff (w.all isBlank = true) List.all_eq_true

/-- The text `t` is `s` with blanks around it. -/
def Padded (s t : List Char) : Prop :=
  ∃ w w', AllBlank w ∧ AllBlank w' ∧ t = w ++ s ++ w'

variable {a b s t w : List Char} {c : Char}

theorem allBlank_append_iff : AllBlank (s ++ t) ↔ AllBlank s ∧ AllBlank t :=
  List.forall_mem_append

theorem Padded.refl (s : List Char) : Padded s s :=
  ⟨[], [], by simp [AllBlank], by simp [AllBlank], by simp⟩

/-- A character that is no blank is in a padded text just if it is in the text itself. -/
theorem Padded.mem_iff (padded : Padded s t) (visible : isBlank c = false) : c ∈ t ↔ c ∈ s := by
  obtain ⟨w, w', front, back, rfl⟩ := padded
  have outside : ∀ u, AllBlank u → c ∉ u := by
    intro u blank mem
    rw [blank c mem] at visible
    cases visible
  simp [outside w front, outside w' back]

theorem trim_eq_self (first : ∀ c ∈ s.head?, isBlank c = false) (last : ∀ c ∈ s.getLast?, isBlank c = false) :
    trim s = s := by
  have start : trimStart s = s := by
    cases s with
    | nil => rfl
    | cons c s => exact trimStart_eq_self (first c rfl)
  rw [trim, start]
  rcases List.eq_nil_or_concat s with rfl | ⟨m, d, rfl⟩
  · rfl
  · rw [List.concat_eq_append] at last ⊢
    exact trimEnd_append_of_not_blank (last d List.getLast?_concat)

/-- What is trimmed begins and ends with a character that can be seen. -/
theorem trim_trim (s : List Char) : trim (trim s) = trim s := by
  have start : ∀ c ∈ (trimStart s).head?, isBlank c = false := by
    intro c mem
    have first := List.head?_dropWhile_not isBlank s
    rw [← trimStart, Option.mem_def.1 mem] at first
    exact first
  have part : trim s <+: trimStart s := by
    rw [trim, trimEnd, ← List.reverse_suffix, List.reverse_reverse]
    exact List.dropWhile_suffix _
  apply trim_eq_self
  · intro c mem
    obtain ⟨rest, whole⟩ := part
    exact start c (whole ▸ List.mem_head?_append_of_mem_head? mem)
  · intro c mem
    have last := List.head?_dropWhile_not isBlank (trimStart s).reverse
    rw [← List.getLast?_reverse, ← trimEnd, ← trim, Option.mem_def.1 mem] at last
    exact last

theorem trimEnd_eq_reverse (s : List Char) : trimEnd s = (trimStart s.reverse).reverse := rfl

theorem trimStart_append (blank : AllBlank w) (s : List Char) : trimStart (w ++ s) = trimStart s :=
  List.dropWhile_append_of_pos blank

theorem trimEnd_append (s : List Char) (blank : AllBlank w) : trimEnd (s ++ w) = trimEnd s := by
  have turned : AllBlank w.reverse := fun c mem => blank c (List.mem_reverse.1 mem)
  rw [trimEnd_eq_reverse, List.reverse_append, trimStart_append turned, ← trimEnd_eq_reverse]

theorem trimStart_append_cons (visible : isBlank c = false) : trimStart (a ++ c :: b) = trimStart a ++ c :: b := by
  rw [trimStart, List.dropWhile_append]
  split
  · next empty => rw [List.dropWhile_cons_of_neg (by simp [visible]), trimStart, List.isEmpty_iff.1 empty, List.nil_append]
  · rfl

theorem trimEnd_append_cons (visible : isBlank c = false) : trimEnd (a ++ c :: b) = a ++ c :: trimEnd b := by
  have turned : (a ++ c :: b).reverse = b.reverse ++ c :: a.reverse := by simp
  rw [trimEnd_eq_reverse, turned, trimStart_append_cons visible]
  simp [trimEnd_eq_reverse]

/-- A character that is no blank stays where it is: what is in front of it loses its first blanks, and what is behind
it its last ones. -/
theorem trim_append_cons (visible : isBlank c = false) : trim (a ++ c :: b) = trimStart a ++ c :: trimEnd b := by
  rw [trim, trimStart_append_cons visible, trimEnd_append_cons visible]

theorem exists_trimStart (s : List Char) : ∃ w, AllBlank w ∧ s = w ++ trimStart s :=
  ⟨s.takeWhile isBlank, fun _ mem => List.mem_takeWhile_imp mem, List.takeWhile_append_dropWhile.symm⟩

theorem exists_trimEnd (s : List Char) : ∃ w, AllBlank w ∧ s = trimEnd s ++ w := by
  obtain ⟨w, blank, whole⟩ := exists_trimStart s.reverse
  refine ⟨w.reverse, fun c mem => blank c (List.mem_reverse.1 mem), ?_⟩
  rw [trimEnd_eq_reverse, ← List.reverse_append, ← whole, List.reverse_reverse]

/-- A text is what is trimmed of it, with blanks around. -/
theorem padded_trim (s : List Char) : Padded (trim s) s := by
  obtain ⟨w, front, first⟩ := exists_trimStart s
  obtain ⟨w', back, last⟩ := exists_trimEnd (trimStart s)
  refine ⟨w, w', front, back, ?_⟩
  rw [trim, List.append_assoc, ← last, ← first]

/-- The blanks around a text do not count. -/
theorem Padded.trim_eq (padded : Padded s t) : trim t = trim s := by
  obtain ⟨w, w', front, back, rfl⟩ := padded
  rw [trim, List.append_assoc, trimStart_append front, trimStart, List.dropWhile_append]
  split
  · next empty =>
    have blank : trimStart w' = [] := List.dropWhile_eq_nil_iff.2 back
    rw [trim, trimStart, List.isEmpty_iff.1 empty, ← trimStart, blank]
  · rw [trimEnd_append _ back, ← trimStart, trim]

theorem trim_trimStart (s : List Char) : trim (trimStart s) = trim s := by
  obtain ⟨w, blank, whole⟩ := exists_trimStart s
  have padded : Padded (trimStart s) s := ⟨w, [], blank, by simp [AllBlank], by simpa using whole⟩
  exact padded.trim_eq.symm

theorem trim_trimEnd (s : List Char) : trim (trimEnd s) = trim s := by
  obtain ⟨w, blank, whole⟩ := exists_trimEnd s
  have padded : Padded (trimEnd s) s := ⟨[], w, by simp [AllBlank], blank, by simpa using whole⟩
  exact padded.trim_eq.symm

theorem not_mem_trim (absent : c ∉ s) : c ∉ trim s := by
  obtain ⟨w, w', -, -, whole⟩ := padded_trim s
  have part : trim s <:+: s := ⟨w, w', whole.symm⟩
  exact fun mem => absent (part.subset mem)

/-- **What is trimmed of a text** is what has no blanks around it and becomes the text by blanks around it. -/
theorem trim_eq_iff : trim s = t ↔ trim t = t ∧ Padded t s := by
  constructor
  · rintro rfl
    exact ⟨trim_trim s, padded_trim s⟩
  · rintro ⟨whole, padded⟩
    rw [padded.trim_eq, whole]

theorem trim_eq_nil_iff : trim s = [] ↔ AllBlank s := by
  rw [trim_eq_iff]
  constructor
  · rintro ⟨-, w, w', front, back, rfl⟩
    simpa using allBlank_append_iff.2 ⟨front, back⟩
  · intro blank
    exact ⟨rfl, s, [], blank, by simp [AllBlank], by simp⟩

end Lookout.Text
