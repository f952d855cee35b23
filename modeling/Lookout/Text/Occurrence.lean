/-!
# Occurrences of one text in another

Occurrences are found from the left and do not overlap. `pieces sep s` is what `s` is cut into by the
occurrences of `sep`; joining the pieces with another text replaces every occurrence by it.
-/

namespace Lookout.Text
set_option autoImplicit false

variable {α : Type} [DecidableEq α]

/-- Whether `part` occurs in `s`. The empty text occurs in every text. -/
def occursIn (part : List α) : List α → Bool
  | [] => part.isEmpty
  | c :: r => part.isPrefixOf (c :: r) || occursIn part r

/-- The pieces of a text after its first `skip` characters. An occurrence that was found is passed
over by skipping the rest of it. -/
def piecesFrom (sep : List α) : Nat → List α → List (List α)
  | _, [] => [[]]
  | skip + 1, _ :: r => piecesFrom sep skip r
  | 0, c :: r =>
    if sep.isPrefixOf (c :: r) then [] :: piecesFrom sep (sep.length - 1) r
    else (piecesFrom sep 0 r).modifyHead (c :: ·)

/-- What the occurrences of `sep`, which is not empty, cut `s` into. -/
def pieces (sep s : List α) : List (List α) :=
  piecesFrom sep 0 s

/-- `s` with every occurrence of `old`, which is not empty, replaced by `new`. -/
def replaceAll (old new s : List α) : List α :=
  List.intercalate new (pieces old s)

/-- The first occurrence of `c` cuts `s` in two; none if `c` does not occur. -/
def splitOnce (c : α) : List α → Option (List α × List α)
  | [] => none
  | d :: r => if d = c then some ([], r) else (splitOnce c r).map fun p => (d :: p.1, p.2)

/-- What the occurrences of the single character `c` cut `s` into. -/
def splitAt (c : α) : List α → List (List α)
  | [] => [[]]
  | d :: r => if d = c then [] :: splitAt c r else (splitAt c r).modifyHead (d :: ·)

theorem piecesFrom_ne_nil (sep : List α) (skip : Nat) (s : List α) : piecesFrom sep skip s ≠ [] := by
  induction s generalizing skip with
  | nil => cases skip <;> simp [piecesFrom]
  | cons c r ih =>
    cases skip with
    | succ k => simpa [piecesFrom] using ih k
    | zero =>
      simp only [piecesFrom]
      split
      · simp
      · cases h : piecesFrom sep 0 r with
        | nil => exact absurd h (ih 0)
        | cons p ps => simp

theorem splitOnce_eq_some {c : α} {s a b : List α} (h : splitOnce c s = some (a, b)) :
    s = a ++ c :: b ∧ c ∉ a := by
  induction s generalizing a with
  | nil => simp [splitOnce] at h
  | cons d r ih =>
    simp only [splitOnce] at h
    split at h
    · next e => simp at h; obtain ⟨rfl, rfl⟩ := h; simp [e]
    · next ne =>
      obtain ⟨p, hp, e⟩ := Option.map_eq_some_iff.1 h
      obtain ⟨rfl, rfl⟩ := Prod.mk.inj e
      obtain ⟨rfl, hn⟩ := ih hp
      exact ⟨rfl, by simp [hn, Ne.symm ne]⟩

theorem splitOnce_append {c : α} {a b : List α} (h : c ∉ a) : splitOnce c (a ++ c :: b) = some (a, b) := by
  induction a with
  | nil => simp [splitOnce]
  | cons d r ih =>
    simp only [List.mem_cons, not_or] at h
    simp [splitOnce, Ne.symm h.1, ih h.2]

end Lookout.Text
