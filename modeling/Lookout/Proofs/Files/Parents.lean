import Lookout.Proofs.Files.Writing
import Lookout.Proofs.Text.Joining

/-!
# Directories that are there

Where a path leads to something, the directories on the way to it are there: to make the directory that it lies in
is to make nothing.
-/

namespace Lookout.Files
set_option autoImplicit false
open Text

variable {path directory : String} {parts : List (List Char)}

theorem splitAt_flatMap_slash (bare : ∀ p ∈ parts, '/' ∉ p) :
    splitAt '/' (parts.flatMap (· ++ ['/'])) = parts ++ [[]] := by
  induction parts with
  | nil => rfl
  | cons p parts ih =>
    have later := ih fun q mem => bare q (List.mem_cons_of_mem p mem)
    rw [List.flatMap_cons, List.append_assoc, List.singleton_append, splitAt_append_cons _ (bare p List.mem_cons_self),
      later, List.cons_append]

/-- Parts are those in front of the idle ones at the end, and these. -/
theorem eq_append_idle (parts : List (List Char)) :
    parts = (parts.reverse.dropWhile isIdlePart).reverse ++ (parts.reverse.takeWhile isIdlePart).reverse := by
  rw [← List.reverse_append, List.takeWhile_append_dropWhile, List.reverse_reverse]

/-- Of parts with a slash behind each, those are left that stand in front of the idle ones at the end. -/
theorem trimParts_flatMap_slash (bare : ∀ p ∈ parts, '/' ∉ p) :
    (∀ p ∈ splitAt '/' (trimParts (parts.flatMap (· ++ ['/']))), isIdlePart p = true) ∨
      ∃ kept idle, parts = kept ++ idle ∧ kept ≠ [] ∧ kept ≠ [[]] ∧
        trimParts (parts.flatMap (· ++ ['/'])) = List.intercalate ['/'] kept := by
  have ends : (parts ++ [[]]).reverse.dropWhile isIdlePart = parts.reverse.dropWhile isIdlePart := by
    rw [List.reverse_append, List.reverse_singleton, List.singleton_append, List.dropWhile_cons_of_pos rfl]
  simp only [trimParts, splitAt_flatMap_slash bare, ends]
  split
  · left
    split <;> decide
  · left
    decide
  · next keeps empty => exact .inr ⟨_, _, eq_append_idle parts, keeps, empty, rfl⟩

theorem splitLastPart?_eq_some {cs before name : List Char} (last : splitLastPart? cs = some (before, name)) :
    ∃ parts idle, splitAt '/' cs = parts ++ name :: idle ∧ before = parts.flatMap (· ++ ['/']) := by
  unfold splitLastPart? at last
  split at last
  · cases last
  · next name' front shape =>
    obtain ⟨rfl, rfl⟩ := Prod.mk.inj (Option.some.inj last)
    have whole := eq_append_idle (splitAt '/' cs)
    rw [shape, List.reverse_cons, List.append_assoc, List.singleton_append] at whole
    exact ⟨_, _, whole, rfl⟩

/-- The parts of the directory of a path are parts at the beginning of the path, unless they do not count. -/
theorem splitAt_parent (parent : parent? path = some directory) :
    (∀ p ∈ splitAt '/' directory.toList, isIdlePart p = true) ∨
      ∃ part rest, splitAt '/' path.toList = splitAt '/' directory.toList ++ part :: rest ∧
        path.toList.head? = directory.toList.head? := by
  unfold parent? at parent
  split at parent
  · cases parent
  · next before name last =>
    obtain rfl := Option.some.inj parent
    obtain ⟨parts, idle, whole, rfl⟩ := splitLastPart?_eq_some last
    have bare : ∀ p ∈ parts, '/' ∉ p := fun p mem => not_mem_of_mem_splitAt (whole ▸ List.mem_append_left _ mem)
    rw [String.toList_ofList]
    refine (trimParts_flatMap_slash bare).imp_right ?_
    rintro ⟨kept, idle', rfl, keeps, solid, trimmed⟩
    have same : splitAt '/' (List.intercalate ['/'] kept) = kept :=
      splitAt_eq_iff.2 ⟨keeps, fun p mem => bare p (List.mem_append_left _ mem), rfl⟩
    have nonempty : List.intercalate ['/'] kept ≠ [] := by
      intro empty
      rw [empty] at same
      exact solid same.symm
    obtain ⟨part, rest, later⟩ : ∃ part rest, idle' ++ name :: idle = part :: rest :=
      List.exists_cons_of_ne_nil (by simp)
    rw [List.append_assoc, later] at whole
    rw [trimmed, same]
    refine ⟨part, rest, whole, ?_⟩
    have text := (splitAt_eq_iff.1 whole).2.2
    rw [text, intercalate_append _ keeps (List.cons_ne_nil part rest), List.append_assoc,
      List.head?_append_of_ne_nil _ nonempty]

namespace Tree

variable {t : Tree} {dir found : Names}

/-- Where a path begins. -/
def origin (t : Tree) (cs : List Char) : Names :=
  if cs.head? = some '/' then [] else t.current

theorem walk_of_locate (located : t.locate path = .ok found) :
    t.walk (t.origin path.toList) (splitAt '/' path.toList) = .ok found := by
  unfold locate at located
  split at located
  · cases located
  · next rest absolute =>
    rw [absolute]
    exact walk_cons_eq_ok.2 ⟨rfl, located⟩
  · next relative =>
    have first : path.toList.head? ≠ some '/' := by
      intro slash
      obtain ⟨rest, shape⟩ := List.head?_eq_some_iff.1 slash
      exact relative rest shape
    rw [origin, if_neg first]
    exact located

theorem makeDirectories_eq (t : Tree) (path : String) :
    t.makeDirectories path = t.makeParts (t.origin path.toList) (splitAt '/' path.toList) := by
  unfold makeDirectories
  split
  · next rest absolute =>
    rw [absolute]
    rfl
  · next relative =>
    have first : path.toList.head? ≠ some '/' := by
      intro slash
      obtain ⟨rest, shape⟩ := List.head?_eq_some_iff.1 slash
      exact relative rest shape
    rw [origin, if_neg first]

theorem makeParts_of_idle (idle : ∀ p ∈ parts, isIdlePart p = true) : t.makeParts dir parts = (.ok (), t) := by
  induction parts with
  | nil => rfl
  | cons part rest ih =>
    rw [makeParts, if_pos (idle part List.mem_cons_self)]
    exact ih fun p mem => idle p (List.mem_cons_of_mem part mem)

theorem makeParts_cons {part : List Char} {rest : List (List Char)}
    (there : t.node? (onward dir part) = some .directory) :
    t.makeParts dir (part :: rest) = t.makeParts (onward dir part) rest := by
  unfold onward at there ⊢
  rw [makeParts]
  split
  · rfl
  · next counts =>
    rw [if_neg counts] at there
    split
    · rfl
    · next down =>
      rw [if_neg down] at there
      simp only [there]

/-- All parts of a path but the last lead through directories. -/
theorem makeParts_of_walk {part : List Char} {rest : List (List Char)}
    (walk : t.walk dir (parts ++ part :: rest) = .ok found) : t.makeParts dir parts = (.ok (), t) := by
  induction parts generalizing dir with
  | nil => rfl
  | cons first parts ih =>
    obtain ⟨-, later⟩ := walk_cons_eq_ok.1 walk
    have there : t.node? (onward dir first) = some .directory := by
      cases parts with
      | nil => exact (walk_cons_eq_ok.1 later).1
      | cons second parts => exact (walk_cons_eq_ok.1 later).1
    rw [makeParts_cons there]
    exact ih later

/-- **Nothing is made that is there.** -/
theorem makeDirectories_parent (located : t.locate path = .ok found) (parent : parent? path = some directory) :
    t.makeDirectories directory = (.ok (), t) := by
  rw [makeDirectories_eq]
  obtain idle | ⟨part, rest, parts, begins⟩ := splitAt_parent parent
  · exact makeParts_of_idle idle
  · have walk := walk_of_locate located
    rw [parts, origin, begins] at walk
    exact makeParts_of_walk walk

end Tree

end Lookout.Files
