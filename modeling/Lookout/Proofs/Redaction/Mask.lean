import Lookout.Proofs.Redaction.Url

/-!
# Masking one value

The masks cut a line into pieces, and a value is exposed where it occurs within a piece. A plain value, one
that is part of the mask or apart from it, is masked in every piece by itself: what is left of the pieces
exposes nothing that was not exposed before, and where a plain value is not exposed nothing changes. The
masking of URLs exposes nothing either.
-/

namespace Lookout.Redaction
set_option autoImplicit false
open Text

theorem mask_ne_nil : mask ≠ [] := by decide

theorem mask_borderless : borderless mask = true := by decide

theorem ne_nil_of_not_part {v : List Char} (notPart : ¬ v <:+: mask) : v ≠ [] := by
  rintro rfl
  exact notPart List.nil_infix

/-- A value that masking one line at a time can deal with. -/
def Plain (v : List Char) : Prop :=
  v <:+: mask ∨ Apart v mask

/-- The value occurs in the line, and not only within the masks. -/
def Exposed (v line : List Char) : Prop :=
  ∃ p ∈ pieces mask line, v <:+: p

theorem maskPasses_eq_self {v line : List Char} (absent : ¬ v <:+: line) (passes : Nat) :
    maskPasses v passes line = line := by
  cases passes with
  | zero => rfl
  | succ n =>
    unfold maskPasses
    rw [if_neg (by rwa [occursIn_iff])]

theorem maskPasses_succ {v line : List Char} (occurs : v <:+: line) (passes : Nat) :
    maskPasses v (passes + 1) line = maskPasses v passes (replaceAll v mask line) := by
  rw [maskPasses, if_pos (occursIn_iff.2 occurs)]

theorem maskValue_of_part {v : List Char} (part : v <:+: mask) (line : List Char) :
    maskValue line v = mask.intercalate ((pieces mask line).map (replaceAll v mask)) := by
  unfold maskValue
  rw [if_pos (occursIn_iff.2 part)]

theorem maskValue_of_not_part {v : List Char} (notPart : ¬ v <:+: mask) (line : List Char) :
    maskValue line v = maskPasses v maxPasses line := by
  unfold maskValue
  rw [if_neg (by rwa [occursIn_iff])]

/-- A value apart from the mask is gone after one pass. -/
theorem maskValue_of_apart {v : List Char} (h : Apart v mask) (line : List Char) :
    maskValue line v = replaceAll v mask line := by
  rw [maskValue_of_not_part h.notIn]
  by_cases occurs : v <:+: line
  · rw [maxPasses, maskPasses_succ occurs, maskPasses_eq_self (h.not_infix_replaceAll_self line)]
  · rw [maskPasses_eq_self occurs, replaceAll_eq_self mask occurs]

/-- A plain value is masked piece by piece. -/
theorem maskValue_of_plain {v : List Char} (h : Plain v) (line : List Char) :
    maskValue line v = mask.intercalate ((pieces mask line).map (replaceAll v mask)) := by
  rcases h with part | apart
  · exact maskValue_of_part part line
  · rw [maskValue_of_apart apart, ← apart.replaceAll_intercalate, intercalate_pieces mask_ne_nil]

/-- What masking a plain value leaves of the pieces. -/
theorem pieces_maskValue {v : List Char} (h : Plain v) (nonempty : v ≠ []) (line : List Char) :
    pieces mask (maskValue line v) = (pieces mask line).flatMap (pieces v) := by
  have each := pieces_ne_nil v
  rw [maskValue_of_plain h]
  show pieces mask (mask.intercalate ((pieces mask line).map fun p => mask.intercalate (pieces v p))) = _
  rw [intercalate_map_intercalate mask each]
  refine pieces_intercalate mask_borderless mask_ne_nil (flatMap_ne_nil each (pieces_ne_nil mask line)) ?_
  intro q mem occurs
  obtain ⟨p, here, within⟩ := List.mem_flatMap.1 mem
  exact not_infix_of_mem_pieces mask_ne_nil here (occurs.trans (infix_of_mem_pieces nonempty within))

theorem not_exposed_maskValue_self {v : List Char} (h : Plain v) (nonempty : v ≠ []) (line : List Char) :
    ¬ Exposed v (maskValue line v) := by
  rintro ⟨q, mem, occurs⟩
  rw [pieces_maskValue h nonempty] at mem
  obtain ⟨p, -, within⟩ := List.mem_flatMap.1 mem
  exact not_infix_of_mem_pieces nonempty within occurs

/-- Masking a plain value exposes no other value. -/
theorem not_exposed_maskValue {v w line : List Char} (h : Plain w) (nonempty : w ≠ [])
    (hidden : ¬ Exposed v line) : ¬ Exposed v (maskValue line w) := by
  rintro ⟨q, mem, occurs⟩
  rw [pieces_maskValue h nonempty] at mem
  obtain ⟨p, here, within⟩ := List.mem_flatMap.1 mem
  exact hidden ⟨p, here, occurs.trans (infix_of_mem_pieces nonempty within)⟩

/-- A plain value that is not exposed changes nothing. -/
theorem maskValue_eq_self {v line : List Char} (h : Plain v) (hidden : ¬ Exposed v line) :
    maskValue line v = line := by
  have same : (pieces mask line).map (replaceAll v mask) = pieces mask line := by
    rw [List.map_congr_left (g := id), List.map_id]
    intro p mem
    exact replaceAll_eq_self mask fun occurs => hidden ⟨p, mem, occurs⟩
  rw [maskValue_of_plain h, same, intercalate_pieces mask_ne_nil]

/-- Masking the passwords of URLs exposes nothing. -/
theorem not_exposed_maskUrls {v s : List Char} (hidden : ¬ Exposed v s) : ¬ Exposed v (maskUrls s) := by
  refine maskUrls_invariant (P := fun s => ¬ Exposed v s) ?_ hidden
  rintro x u y - before ⟨t, mem, occurs⟩
  have colon : ':' ∉ mask := by decide
  have atSign : '@' ∉ mask := by decide
  have front : ∀ w : UrlPassword, x ++ (w.text ++ y)
      = (x ++ w.scheme ++ ':' :: '/' :: '/' :: w.user) ++ ':' :: (w.password ++ '@' :: y) := by
    intro w
    simp [UrlPassword.text]
  rw [front] at mem before
  simp only [UrlPassword.hide] at mem
  -- the pieces on both sides of the password, and of the password itself
  obtain ⟨xs, p, ex⟩ := pieces_eq_concat mask (x ++ u.scheme ++ ':' :: '/' :: '/' :: u.user)
  obtain ⟨ws, r, ew⟩ := pieces_eq_concat mask u.password
  obtain ⟨q, ys, ey⟩ := List.exists_cons_of_ne_nil (pieces_ne_nil mask y)
  have fresh : pieces mask ([] ++ '@' :: y) = [] ++ ([] ++ '@' :: q) :: ys :=
    pieces_append_cons mask_ne_nil atSign (pieces_nil mask) ey
  have after : pieces mask (mask ++ '@' :: y) = [] :: ('@' :: q) :: ys := by
    rw [pieces_append_self mask_ne_nil]
    exact congrArg ([] :: ·) fresh
  have back := pieces_append_cons mask_ne_nil atSign ew ey
  obtain ⟨h, tl, eh⟩ := List.exists_cons_of_ne_nil (pieces_ne_nil mask (u.password ++ '@' :: y))
  have whole := pieces_append_cons mask_ne_nil colon ex eh
  rw [pieces_append_cons mask_ne_nil colon ex after] at mem
  rw [Exposed, whole] at before
  have later : ∀ z ∈ ws ++ (r ++ '@' :: q) :: ys, ∃ z' ∈ xs ++ (p ++ ':' :: h) :: tl, z <:+: z' := by
    rw [← back, eh]
    intro z memz
    rcases List.mem_cons.1 memz with rfl | memz
    · exact ⟨p ++ ':' :: z, by simp, List.infix_append_of_infix_right (List.infix_cons List.infix_rfl)⟩
    · exact ⟨z, by simp [memz], List.infix_rfl⟩
  simp only [List.mem_append, List.mem_cons] at mem
  rcases mem with mem | rfl | rfl | mem
  · exact before ⟨t, by simp [mem], occurs⟩
  · refine before ⟨p ++ ':' :: h, by simp, occurs.trans ?_⟩
    exact ⟨[], h, by simp⟩
  · obtain ⟨z, memz, within⟩ := later (r ++ '@' :: q) (by simp)
    exact before ⟨z, memz, occurs.trans ((List.infix_append_of_infix_right List.infix_rfl).trans within)⟩
  · obtain ⟨z, memz, within⟩ := later t (by simp [mem])
    exact before ⟨z, memz, occurs.trans within⟩

end Lookout.Redaction
