import Lookout.Files.Tree

/-!
# Files that are written

A file that was written is there with its content, under the path at which it was written: a file in the place of
another, or in a directory, hides nothing on the way to it.
-/

namespace Lookout.Files.Tree
set_option autoImplicit false
open Text

variable {t t' : Tree} {names other dir found : Names} {n : Node} {path : String} {content : Payload}

theorem lookup_replaced (names other : Names) (n : Node) (nodes : List (Names × Node)) :
    (nodes.map fun e => if e.1 = names then (names, n) else e).lookup other =
      if other = names then (nodes.lookup names).map fun _ => n else nodes.lookup other := by
  induction nodes with
  | nil => simp
  | cons e nodes ih =>
    obtain ⟨key, old⟩ := e
    by_cases here : key = names
    · by_cases same : other = names
      · simp [here, same]
      · simp [List.lookup_cons, here, same, beq_eq_false_iff_ne.2 same, ih]
    · by_cases same : other = names
      · subst same
        simpa [List.lookup_cons, here, beq_eq_false_iff_ne.2 (Ne.symm here)] using ih
      · simp [List.lookup_cons, here, same, ih]

theorem lookup_put (t : Tree) (names other : Names) (n : Node) :
    (t.put names n).nodes.lookup other = if other = names then some n else t.nodes.lookup other := by
  unfold put
  split
  · next there =>
    obtain ⟨old, there⟩ := Option.isSome_iff_exists.1 there
    simp [lookup_replaced, there]
  · next absent =>
    have missing := Option.not_isSome_iff_eq_none.1 absent
    by_cases same : other = names
    · simp [same, List.lookup_append, missing]
    · simp [same, List.lookup_append, List.lookup_cons, beq_eq_false_iff_ne.2 same]

theorem node?_put_self (n : Node) (below : names ≠ []) : (t.put names n).node? names = some n := by
  simp [node?, below, lookup_put]

theorem node?_put_of_ne (n : Node) (different : other ≠ names) : (t.put names n).node? other = t.node? other := by
  simp [node?, lookup_put, different]

theorem current_put (t : Tree) (names : Names) (n : Node) : (t.put names n).current = t.current := by
  unfold put
  split <;> rfl

/-- Where one part of a path leads from a directory. -/
def onward (dir : Names) (part : List Char) : Names :=
  if isIdlePart part then dir else if part = ['.', '.'] then dir.dropLast else dir ++ [part]

theorem walk_cons_eq_ok {part : List Char} {rest : List (List Char)} :
    t.walk dir (part :: rest) = .ok found ↔
      t.node? dir = some .directory ∧ t.walk (onward dir part) rest = .ok found := by
  rw [walk]
  cases here : t.node? dir with
  | none => simp
  | some node =>
    cases node with
    | file content => simp
    | directory => simp only [true_and, onward, apply_ite (t.walk · rest)]

/-- What is put where there was no directory is not on the way to anything. -/
theorem walk_put {parts : List (List Char)} (free : t.node? names ≠ some .directory) (n : Node)
    (walk : t.walk dir parts = .ok found) : (t.put names n).walk dir parts = .ok found := by
  induction parts generalizing dir with
  | nil => exact walk
  | cons part rest ih =>
    obtain ⟨here, later⟩ := walk_cons_eq_ok.1 walk
    have different : dir ≠ names := by
      rintro rfl
      exact free here
    exact walk_cons_eq_ok.2 ⟨(node?_put_of_ne n different).trans here, ih later⟩

theorem locate_put (free : t.node? names ≠ some .directory) (n : Node) (located : t.locate path = .ok found) :
    (t.put names n).locate path = .ok found := by
  unfold locate at located ⊢
  rw [current_put]
  split at located
  · cases located
  · exact walk_put free n located
  · exact walk_put free n located

theorem place_eq_ok (placed : t.place path = .ok names) :
    t.locate path = .ok names ∧ t.node? names ≠ some .directory := by
  unfold place at placed
  cases located : t.locate path with
  | error e =>
    simp only [located, Except.bind, bind] at placed
    cases placed
  | ok found =>
    simp only [located, Except.bind, bind] at placed
    split at placed
    · cases placed
    · next content file =>
      obtain rfl := Except.ok.inj placed
      exact ⟨rfl, by simp [file]⟩
    · next absent =>
      split at placed
      · split at placed
        · cases placed
        · obtain rfl := Except.ok.inj placed
          exact ⟨rfl, by simp [absent]⟩
      · cases placed
      · cases placed

/-- **What was written is read.** -/
theorem read_of_write (written : t.write path content = (.ok (), t')) :
    t'.pathExists path = true ∧ t'.read path = .ok content := by
  unfold write at written
  split at written
  · cases written
  · next names placed =>
    obtain rfl := (Prod.mk.inj written).2
    obtain ⟨located, free⟩ := place_eq_ok placed
    have below : names ≠ [] := by
      rintro rfl
      exact free rfl
    have again := locate_put free (.file content) located
    have node := @node?_put_self t names (.file content) below
    exact ⟨by simp [pathExists, again, node], by simp only [Tree.read, again, bind, Except.bind, node]⟩

end Lookout.Files.Tree
