import Lookout.Proofs.Redaction.Untouched

/-!
# Parts of the mask

A secret that is part of the mask cannot be taken out of the line, since the masks show it. Where the masks cut the line
into pieces it is masked in every piece, and no mask that is put in makes it anew: the first and the last letter of the
mask stand nowhere else in it, so that no part of it reaches over an edge of a mask.
-/

namespace Lookout.Redaction
set_option autoImplicit false
open Text

variable {v line : List Char}

theorem mask_headOnce : HeadOnce mask := by decide

theorem mask_reverse_headOnce : HeadOnce mask.reverse := by decide

/-- A part of the mask that is not exposed stands only within the masks. -/
theorem onlyWithin_of_not_exposed (nonempty : v ≠ []) (part : v <:+: mask) (hidden : ¬ Exposed v line) :
    OnlyWithin mask v line := by
  apply onlyWithin_of_pieces mask_headOnce mask_reverse_headOnce nonempty part
  intro p mem occurs
  exact hidden ⟨p, mem, occurs⟩

/-- **A secret that is part of the mask** stands only within the masks of the line once it has been masked, and masking
it again changes nothing. What is left between the masks is what the secret cuts the pieces of the line into. -/
theorem part_masked (nonempty : v ≠ []) (part : v <:+: mask) (line : List Char) :
    OnlyWithin mask v (maskValue line v) ∧ maskValue (maskValue line v) v = maskValue line v ∧
      pieces mask (maskValue line v) = (pieces mask line).flatMap (pieces v) := by
  have plain : Plain v := .inl part
  have hidden : ¬ Exposed v (maskValue line v) := not_exposed_maskValue_self plain nonempty line
  refine ⟨onlyWithin_of_not_exposed nonempty part hidden, ?_, pieces_maskValue plain nonempty line⟩
  exact maskValue_eq_self plain hidden

/-- The end of the mask, where it stands by itself, in a mask, and on both sides of one. -/
theorem red_masked : "RED".toList ≠ [] ∧ "RED".toList <:+: mask ∧
    maskValue "RED, CENSORED and REDCENSOREDRED or CENSO".toList "RED".toList =
      "CENSORED, CENSORED and CENSOREDCENSOREDCENSORED or CENSO".toList ∧
    OnlyWithin mask "RED".toList "CENSORED, CENSORED and CENSOREDCENSOREDCENSORED or CENSO".toList ∧
    maskValue "CENSORED, CENSORED and CENSOREDCENSOREDCENSORED or CENSO".toList "RED".toList =
      "CENSORED, CENSORED and CENSOREDCENSOREDCENSORED or CENSO".toList := by
  have nonempty : "RED".toList ≠ [] := by decide
  have part : "RED".toList <:+: mask := by decide
  have masked : maskValue "RED, CENSORED and REDCENSOREDRED or CENSO".toList "RED".toList =
      "CENSORED, CENSORED and CENSOREDCENSOREDCENSORED or CENSO".toList := by decide +kernel
  obtain ⟨within, again, -⟩ := part_masked nonempty part "RED, CENSORED and REDCENSOREDRED or CENSO".toList
  rw [masked] at within again
  exact ⟨nonempty, part, masked, within, again⟩

end Lookout.Redaction
