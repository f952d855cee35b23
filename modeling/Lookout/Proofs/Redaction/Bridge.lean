import Lookout.Proofs.Redaction.Mask

/-!
# Values that a mask completes

A value that is not part of the mask and not apart from it can be put together from a mask and the text
beside it: it holds the mask, or it begins with an end of the mask, or it ends with a beginning of the mask.
`Bridge` says what is missing on the two sides of a mask to form the value, and `exists_bridge` that one can
always be found. A text that is long and shares nothing with the mask stands in for the mask in a line where
the value does not occur yet.
-/

namespace Lookout.Redaction
set_option autoImplicit false
open Text

theorem isAlpha_of_mem_mask {c : Char} (mem : c ∈ mask) : c.isAlpha = true := by
  have all : mask.all Char.isAlpha = true := by decide
  exact List.all_eq_true.1 all c mem

theorem not_mem_mask {c : Char} (notAlpha : c.isAlpha = false) : c ∉ mask := by
  intro mem
  rw [isAlpha_of_mem_mask mem] at notAlpha
  cases notAlpha

/-- Between `a` and `b` a mask forms the value `v`, and masking that leaves nothing but letters of the mask. -/
structure Bridge (v a b : List Char) : Prop where
  forms : v <:+: a ++ (mask ++ b)
  /-- Part of the value comes from the mask. -/
  core : ∃ m, m ≠ [] ∧ (∀ c ∈ m, c ∈ mask) ∧ v = a ++ (m ++ b)
  closed : ¬ OpenPassword v → ¬ OpenPassword (a ++ (mask ++ b))
  gone : ¬ v <:+: maskValue (a ++ (mask ++ b)) v
  letters : ∀ c ∈ maskValue (a ++ (mask ++ b)) v, c ∈ mask

/-- One replacement, after which the value does not occur, is all that masking does. -/
theorem maskValue_of_once {v s t : List Char} (notPart : ¬ v <:+: mask) (occurs : v <:+: s)
    (once : replaceAll v mask s = t) (gone : ¬ v <:+: t) : maskValue s v = t := by
  rw [maskValue_of_not_part notPart, maxPasses, maskPasses_succ occurs, once, maskPasses_eq_self gone]

/-- The value holds the mask. -/
theorem bridge_around {v a b : List Char} (notPart : ¬ v <:+: mask) (e : v = a ++ (mask ++ b)) : Bridge v a b := by
  have nonempty := ne_nil_of_not_part notPart
  have once : replaceAll v mask v = mask := by
    simpa using replaceAll_append_self nonempty mask []
  have result : maskValue (a ++ (mask ++ b)) v = mask := by
    rw [← e]
    exact maskValue_of_once notPart List.infix_rfl once notPart
  exact {
    forms := e ▸ List.infix_rfl
    core := ⟨mask, mask_ne_nil, fun c mem => mem, e⟩
    closed := fun closed => e ▸ closed
    gone := by rwa [result]
    letters := fun c mem => by rwa [result] at mem }

/-- Where the mask is cut, no end of the first part matches the second part. -/
theorem mask_cut_front {e p f : List Char} (cut : f ++ e = mask) (ne : e ≠ []) (np : p ≠ []) (ends : p <:+ f) :
    ¬ e <+: p ∧ ¬ p <+: e := by
  have table : ∀ f ∈ mask.inits, ∀ p ∈ f.tails, p ≠ [] → mask.drop f.length ≠ [] →
      ¬ mask.drop f.length <+: p ∧ ¬ p <+: mask.drop f.length := by decide
  have rest : mask.drop f.length = e := by rw [← cut, List.drop_left]
  have known := table f ((List.mem_inits f mask).2 ⟨e, cut⟩) p ((List.mem_tails p f).2 ends) np
  rw [rest] at known
  exact known ne

/-- Where the mask is cut, no beginning of the second part matches the first part. -/
theorem mask_cut_back {e q g : List Char} (cut : e ++ g = mask) (ne : e ≠ []) (nq : q ≠ []) (begins : q <+: g) :
    ¬ e <:+ q ∧ ¬ q <:+ e := by
  have table : ∀ e ∈ mask.inits, ∀ q ∈ (mask.drop e.length).inits, e ≠ [] → q ≠ [] → ¬ e <:+ q ∧ ¬ q <:+ e := by
    decide
  have rest : mask.drop e.length = g := by rw [← cut, List.drop_left]
  refine table e ((List.mem_inits e mask).2 ⟨g, cut⟩) q ?_ ne nq
  rw [rest]
  exact (List.mem_inits q g).2 begins

/-- A value that begins with an end of the mask is not in the rest of the mask and another one. -/
theorem not_infix_front {v f e : List Char} (notPart : ¬ v <:+: mask) (cut : f ++ e = mask) (ne : e ≠ [])
    (starts : e <+: v) : ¬ v <:+: f ++ mask := by
  intro occurs
  rcases List.infix_append_iff_ne_nil.1 occurs with within | within | ⟨p, q, np, nq, split, ends, begins⟩
  · exact notPart (within.trans ⟨[], e, by simpa using cut⟩)
  · exact notPart within
  · obtain ⟨noE, noP⟩ := mask_cut_front cut ne np ends
    rcases List.prefix_or_prefix_of_prefix starts ⟨q, split.symm⟩ with short | long
    · exact noE short
    · exact noP long

/-- A value that ends with a beginning of the mask is not in another one and the rest of the mask. -/
theorem not_infix_back {v e g : List Char} (notPart : ¬ v <:+: mask) (cut : e ++ g = mask) (ne : e ≠ [])
    (stops : e <:+ v) : ¬ v <:+: mask ++ g := by
  intro occurs
  rcases List.infix_append_iff_ne_nil.1 occurs with within | within | ⟨p, q, np, nq, split, ends, begins⟩
  · exact notPart within
  · exact notPart (within.trans ⟨e, [], by simpa using cut⟩)
  · obtain ⟨noE, noQ⟩ := mask_cut_back cut ne nq begins
    rcases List.suffix_or_suffix_of_suffix stops ⟨p, split.symm⟩ with short | long
    · exact noE short
    · exact noQ long

/-- A text in front, of letters, opens no password that the value has not. -/
theorem not_openPassword_front {f e b : List Char} (cut : f ++ e = mask) (ne : e ≠ [])
    (closed : ¬ OpenPassword (e ++ b)) : ¬ OpenPassword (mask ++ b) := by
  rintro ⟨u, wf, occurs, other⟩
  have colon : ':' ∉ mask := not_mem_mask (by decide)
  rw [← cut, List.append_assoc] at occurs
  rcases List.infix_append_iff_ne_nil.1 occurs with within | later | ⟨x, z, nx, nz, split, ends, begins⟩
  · have mem : ':' ∈ f := within.subset (by simp [UrlPassword.text])
    exact colon (cut ▸ List.mem_append_left e mem)
  · exact closed ⟨u, wf, later, other⟩
  · -- only letters of the scheme stand in `f`, and the scheme goes on in `e`
    have noColon : ':' ∉ x := fun mem => colon (cut ▸ List.mem_append_left e (ends.subset mem))
    obtain ⟨q, scheme, rfl⟩ := append_eq_cons_append noColon split.symm
    obtain ⟨d, e, rfl⟩ := List.exists_cons_of_ne_nil ne
    have inMask : d ∈ mask := cut ▸ List.mem_append_right f (by simp)
    cases q with
    | nil =>
      have same : ':' = d := (List.cons_prefix_cons.1 begins).1
      exact colon (same ▸ inMask)
    | cons c q =>
      have same : c = d := (List.cons_prefix_cons.1 begins).1
      have alpha : c.isAlpha = true := isAlpha_of_mem_mask (same ▸ inMask)
      have chars : ∀ k ∈ q, isSchemeChar k = true := by
        intro k mem
        exact wf.schemeChars k (by simp [scheme, mem])
      have wf' : UrlPassword.WellFormed { u with scheme := c :: q } :=
        ⟨⟨c, q, rfl, alpha, chars⟩, wf.user, wf.password, wf.nonempty⟩
      exact closed ⟨{ u with scheme := c :: q }, wf', begins.isInfix, other⟩

/-- A text behind, of letters, opens no password. -/
theorem not_openPassword_back {v g : List Char} (noAt : '@' ∉ g) (closed : ¬ OpenPassword v) :
    ¬ OpenPassword (v ++ g) := by
  rintro ⟨u, wf, occurs, other⟩
  rcases List.infix_append_iff_ne_nil.1 occurs with within | later | ⟨x, z, nx, nz, split, ends, begins⟩
  · exact closed ⟨u, wf, within, other⟩
  · exact noAt (later.subset (by simp [UrlPassword.text]))
  · obtain ⟨z, d, rfl⟩ := (List.eq_nil_or_concat z).resolve_left nz
    rw [UrlPassword.text_eq_core, List.concat_eq_append, ← List.append_assoc] at split
    obtain rfl : '@' = d := by simpa using (List.append_inj' split rfl).2
    exact noAt (begins.subset (by simp))

/-- The value begins with an end of the mask. -/
theorem bridge_behind {v f e b : List Char} (notPart : ¬ v <:+: mask) (cut : f ++ e = mask) (ne : e ≠ [])
    (form : v = e ++ b) : Bridge v [] b := by
  have whole : [] ++ (mask ++ b) = f ++ v := by
    rw [form, ← cut]
    simp
  have starts : e <+: v := ⟨b, form.symm⟩
  have early : ∀ p, p ≠ [] → p <:+ f → ¬ v <+: p ++ v := by
    intro p np ends begins
    obtain ⟨noE, noP⟩ := mask_cut_front cut ne np ends
    rcases List.prefix_or_prefix_of_prefix (starts.trans begins) (List.prefix_append p v) with short | long
    · exact noE short
    · exact noP long
  have nonempty := ne_nil_of_not_part notPart
  have once : replaceAll v mask (f ++ v) = f ++ mask := by
    rw [replaceAll_append mask early]
    congr 1
    simpa using replaceAll_append_self nonempty mask []
  have gone := not_infix_front notPart cut ne starts
  have result : maskValue ([] ++ (mask ++ b)) v = f ++ mask := by
    rw [whole]
    exact maskValue_of_once notPart (List.infix_append_right) once gone
  exact {
    forms := by
      rw [whole]
      exact List.infix_append_right
    core := ⟨e, ne, fun c mem => cut ▸ List.mem_append_right f mem, form⟩
    closed := fun closed => not_openPassword_front cut ne (form ▸ closed)
    gone := by rwa [result]
    letters := fun c mem => by
      rw [result] at mem
      rcases List.mem_append.1 mem with front | back
      · exact cut ▸ List.mem_append_left e front
      · exact back }

/-- The value ends with a beginning of the mask. -/
theorem bridge_before {v a e g : List Char} (notPart : ¬ v <:+: mask) (cut : e ++ g = mask) (ne : e ≠ [])
    (form : v = a ++ e) : Bridge v a [] := by
  have whole : a ++ (mask ++ []) = v ++ g := by
    rw [form, ← cut]
    simp
  have stops : e <:+ v := ⟨a, form.symm⟩
  have nonempty := ne_nil_of_not_part notPart
  have back : g <:+: mask := ⟨e, [], by simpa using cut⟩
  have once : replaceAll v mask (v ++ g) = mask ++ g := by
    rw [replaceAll_append_self nonempty, replaceAll_eq_self mask fun occurs => notPart (occurs.trans back)]
  have gone := not_infix_back notPart cut ne stops
  have result : maskValue (a ++ (mask ++ [])) v = mask ++ g := by
    rw [whole]
    exact maskValue_of_once notPart List.infix_append_left once gone
  have noAt : '@' ∉ g := fun mem => not_mem_mask (by decide) (back.subset mem)
  exact {
    forms := by
      rw [whole]
      exact List.infix_append_left
    core := ⟨e, ne, fun c mem => cut ▸ List.mem_append_left g mem, by simpa using form⟩
    closed := fun closed => by
      rw [whole]
      exact not_openPassword_back noAt closed
    gone := by rwa [result]
    letters := fun c mem => by
      rw [result] at mem
      rcases List.mem_append.1 mem with front | behind
      · exact front
      · exact back.subset behind }

/-- **A value is part of the mask, apart from it, or completed by it.** -/
theorem exists_bridge {v : List Char} (notPart : ¬ v <:+: mask) (touches : ¬ Apart v mask) :
    ∃ a b, Bridge v a b := by
  by_contra unbridged
  refine touches ⟨notPart, ?_, ?_, ?_⟩
  · rintro ⟨a, b, e⟩
    exact unbridged ⟨a, b, bridge_around notPart (by simpa using e.symm)⟩
  · rintro e ne ⟨a, form⟩ ⟨g, cut⟩
    exact unbridged ⟨a, [], bridge_before notPart cut ne form.symm⟩
  · rintro e ne ⟨f, cut⟩ ⟨b, form⟩
    exact unbridged ⟨[], b, bridge_behind notPart cut ne form.symm⟩

/-- A text longer than the value that shares no character with the mask. -/
def standIn (v : List Char) : List Char :=
  'x' :: List.replicate v.length 'z'

theorem not_mem_mask_of_mem_standIn {v : List Char} {c : Char} (mem : c ∈ standIn v) : c ∉ mask := by
  rcases List.mem_cons.1 mem with rfl | mem
  · decide
  · rw [(List.mem_replicate.1 mem).2]
    decide

theorem standIn_ne_nil (v : List Char) : standIn v ≠ [] := by
  simp [standIn]

theorem not_standIn_infix_of_length_le {v s : List Char} (short : s.length ≤ v.length) : ¬ standIn v <:+: s := by
  intro occurs
  have := occurs.length_le
  simp only [standIn, List.length_cons, List.length_replicate] at this
  omega

theorem standIn_apart (v : List Char) : Apart (standIn v) mask :=
  Apart.of_disjoint (standIn_ne_nil v) mask_ne_nil fun _ => not_mem_mask_of_mem_standIn

/-- The stand-in begins nowhere within a shorter text in front of it. -/
theorem not_standIn_prefix {v p s : List Char} (np : p ≠ []) (short : p.length ≤ v.length) :
    ¬ standIn v <+: p ++ (standIn v ++ s) := by
  intro begins
  obtain ⟨d, p, rfl⟩ := List.exists_cons_of_ne_nil np
  have rest : List.replicate v.length 'z' <+: p ++ ('x' :: (List.replicate v.length 'z' ++ s)) := by
    simpa [standIn] using (List.cons_prefix_cons.1 begins).2
  have next : p ++ ['x'] <+: p ++ ('x' :: (List.replicate v.length 'z' ++ s)) :=
    ⟨List.replicate v.length 'z' ++ s, by simp⟩
  have within : p ++ ['x'] <+: List.replicate v.length 'z' := by
    refine List.prefix_of_prefix_length_le next rest ?_
    simp only [List.length_append, List.length_cons, List.length_nil, List.length_replicate] at *
    omega
  have mem : 'x' ∈ List.replicate v.length 'z' := within.subset (by simp)
  exact absurd (List.mem_replicate.1 mem).2 (by decide)

namespace Bridge

variable {v a b : List Char} (h : Bridge v a b)
include h

theorem length_lt : a.length < v.length ∧ b.length < v.length := by
  obtain ⟨m, nm, -, e⟩ := h.core
  have := List.length_pos_of_ne_nil nm
  simp only [e, List.length_append]
  omega

/-- With the stand-in in place of the mask the value does not occur: its part from the mask would lie in
the stand-in. -/
theorem not_infix_standIn : ¬ v <:+: a ++ (standIn v ++ b) := by
  rintro ⟨x, y, e⟩
  obtain ⟨m, nm, letters, form⟩ := h.core
  obtain ⟨c, m, rfl⟩ := List.exists_cons_of_ne_nil nm
  have whole : (x ++ a) ++ (c :: (m ++ b ++ y)) = a ++ (standIn v ++ b) := by
    rw [← e, form]
    simp
  have size := congrArg List.length whole
  have big : (standIn v).length = v.length + 1 := by simp [standIn]
  have letter : (a ++ (standIn v ++ b))[(x ++ a).length]? = some c := by
    rw [← whole]
    simp
  rw [List.getElem?_append_right (by simp), List.getElem?_append_left] at letter
  · exact not_mem_mask_of_mem_standIn (List.mem_of_getElem? letter) (letters c (by simp))
  · simp only [List.length_append, List.length_cons] at size ⊢
    omega

/-- Masking the stand-in puts the mask in place. -/
theorem replaceAll_standIn : replaceAll (standIn v) mask (a ++ (standIn v ++ b)) = a ++ (mask ++ b) := by
  obtain ⟨shortA, shortB⟩ := h.length_lt
  have early : ∀ p, p ≠ [] → p <:+ a → ¬ standIn v <+: p ++ (standIn v ++ b) := by
    intro p np ends
    have := ends.length_le
    exact not_standIn_prefix np (by omega)
  rw [replaceAll_append mask early, replaceAll_append_self (standIn_ne_nil v),
    replaceAll_eq_self mask (not_standIn_infix_of_length_le (by omega))]

end Bridge

end Lookout.Redaction
