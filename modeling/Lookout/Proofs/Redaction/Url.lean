import Lookout.Proofs.Redaction.UrlPassword
import Lookout.Proofs.Text.Apart

/-!
# Masking the passwords of URLs

A masked text holds no URL password but `CENSORED`, at any place, and masking it again changes nothing.
What one masked password leaves as it is the masking of all of them leaves as it is, so a text apart from
the mask does not come into being.
-/

namespace Lookout.Redaction
set_option autoImplicit false
open Text

/-- The text holds the password of a URL, and it is not the mask. -/
def OpenPassword (s : List Char) : Prop :=
  ∃ u : UrlPassword, u.WellFormed ∧ u.text <:+: s ∧ u.password ≠ mask

/-- A text without an open password is not changed. -/
theorem maskUrls_eq_self {s : List Char} (closed : ¬ OpenPassword s) : maskUrls s = s := by
  induction s using url_induction with
  | nil => rfl
  | url u r wf ih =>
    have same : u.password = mask := by
      by_contra other
      exact closed ⟨u, wf, List.infix_append_left, other⟩
    have rest : ¬ OpenPassword r := by
      rintro ⟨v, wv, occurs, other⟩
      exact closed ⟨v, wv, List.infix_append_of_infix_right occurs, other⟩
    rw [maskUrls_text_append wf, ih rest, UrlPassword.hide, ← same]
  | keep c r absent ih =>
    have rest : ¬ OpenPassword r := by
      rintro ⟨v, wv, occurs, other⟩
      exact closed ⟨v, wv, List.infix_cons occurs, other⟩
    rw [maskUrls_cons absent, ih rest]

/-- No slash stands before the first at sign in `x`, but one does in every URL password. -/
theorem not_text_append_eq {u : UrlPassword} (wf : u.WellFormed) {x r z : List Char} (noSlash : '/' ∉ x) :
    u.text ++ r ≠ x ++ '@' :: z := by
  intro e
  have front : (u.scheme ++ [':']) ++ '/' :: ('/' :: (u.user ++ ':' :: (u.password ++ '@' :: r)))
      = x ++ '@' :: z := by
    rw [← e]
    simp [UrlPassword.text]
  rcases List.append_eq_append_iff.1 front with ⟨more, rfl, back⟩ | ⟨more, split, back⟩
  · cases more with
    | nil => simp at back
    | cons d more =>
      obtain rfl := (List.cons.inj back).1
      simp at noSlash
  · have atSign : '@' ∈ u.scheme ++ [':'] := by
      cases more with
      | nil => simp at back
      | cons d more =>
        obtain rfl := (List.cons.inj back).1
        simp [split]
    simp [wf.at_not_mem_scheme] at atSign

/-- A part without slashes that a masked text has up to an at sign was there before. -/
theorem of_maskUrls_eq_append_at {s x z : List Char} (noSlash : '/' ∉ x) (e : maskUrls s = x ++ '@' :: z) :
    ∃ y, s = x ++ '@' :: y ∧ maskUrls y = z := by
  induction x generalizing s with
  | nil =>
    rcases maskUrls_eq_cons e with ⟨r, rfl, rest⟩ | ⟨u, r, wf, rfl, whole⟩
    · exact ⟨r, rfl, rest⟩
    · exact absurd whole (not_text_append_eq wf.hide (x := []) (by simp))
  | cons c x ih =>
    rw [List.cons_append] at e
    rcases maskUrls_eq_cons e with ⟨r, rfl, rest⟩ | ⟨u, r, wf, rfl, whole⟩
    · obtain ⟨y, rfl, later⟩ := ih (by simp_all) rest
      exact ⟨y, rfl, later⟩
    · rw [← List.cons_append] at whole
      exact absurd whole (not_text_append_eq wf.hide noSlash)

/-- A character that begins no scheme is kept. -/
theorem of_maskUrls_eq_cons {s t : List Char} {c : Char} (notAlpha : c.isAlpha = false) (e : maskUrls s = c :: t) :
    ∃ r, s = c :: r ∧ maskUrls r = t := by
  rcases maskUrls_eq_cons e with kept | ⟨u, r, wf, -, whole⟩
  · exact kept
  · obtain ⟨d, q, scheme, alpha, -⟩ := wf.hide.scheme
    rw [UrlPassword.text, scheme, List.cons_append, List.cons_append] at whole
    rw [(List.cons.inj whole).1, notAlpha] at alpha
    cases alpha

/-- A masked text that begins with a URL password, but for the first part of its scheme, comes from a text
that did. -/
theorem of_maskUrls_eq_scheme {s q user pw z : List Char} (scheme : ∀ c ∈ q, isSchemeChar c = true)
    (userChars : ∀ c ∈ user, isUserChar c = true) (pwChars : ∀ c ∈ pw, isPasswordChar c = true)
    (nonempty : pw ≠ []) (e : maskUrls s = q ++ ':' :: '/' :: '/' :: (user ++ ':' :: (pw ++ '@' :: z))) :
    ∃ pw' y, s = q ++ ':' :: '/' :: '/' :: (user ++ ':' :: (pw' ++ '@' :: y)) ∧
      (∀ c ∈ pw', isPasswordChar c = true) ∧ pw' ≠ [] := by
  induction q generalizing s with
  | nil =>
    obtain ⟨r1, rfl, e1⟩ := of_maskUrls_eq_cons (by decide) e
    obtain ⟨r2, rfl, e2⟩ := of_maskUrls_eq_cons (by decide) e1
    obtain ⟨r3, rfl, e3⟩ := of_maskUrls_eq_cons (by decide) e2
    have noSlash : '/' ∉ user ++ ':' :: pw := by
      have inUser : '/' ∉ user := UrlPassword.not_mem_of_all userChars (by decide)
      have inPw : '/' ∉ pw := UrlPassword.not_mem_of_all pwChars (by decide)
      simp [inUser, inPw]
    have e4 : maskUrls r3 = (user ++ ':' :: pw) ++ '@' :: z := by simpa using e3
    obtain ⟨y, rfl, -⟩ := of_maskUrls_eq_append_at noSlash e4
    exact ⟨pw, y, by simp, pwChars, nonempty⟩
  | cons c q ih =>
    rcases maskUrls_eq_cons e with ⟨r, rfl, rest⟩ | ⟨u, r, wf, rfl, whole⟩
    · obtain ⟨pw', y, rfl, chars, ne⟩ := ih (fun d mem => scheme d (List.mem_cons_of_mem _ mem)) rest
      exact ⟨pw', y, rfl, chars, ne⟩
    · have colon : ':' ∉ c :: q := UrlPassword.not_mem_of_all scheme (by decide)
      have heads : u.scheme ++ ':' :: ('/' :: '/' :: (u.user ++ ':' :: (mask ++ '@' :: maskUrls r)))
          = (c :: q) ++ ':' :: ('/' :: '/' :: (user ++ ':' :: (pw ++ '@' :: z))) := by
        simpa [UrlPassword.text, UrlPassword.hide] using whole
      obtain ⟨es, rest⟩ := split_first wf.colon_not_mem_scheme colon heads
      have noColon : ':' ∉ user := UrlPassword.not_mem_of_all userChars (by decide)
      obtain ⟨eu, -⟩ := split_first wf.colon_not_mem_user noColon (by simpa using rest)
      refine ⟨u.password, r, ?_, wf.password, wf.nonempty⟩
      rw [UrlPassword.text, es, eu]
      simp

/-- A URL password within another URL password ends where that one ends. -/
theorem UrlPassword.WellFormed.password_eq_of_infix {u v : UrlPassword} (hu : u.WellFormed) (hv : v.WellFormed)
    (occurs : u.text <:+: v.text) : u.password = v.password := by
  obtain ⟨x, y, e⟩ := occurs
  have cut : (x ++ u.core) ++ '@' :: y = v.core ++ '@' :: [] := by
    rw [text_eq_core, text_eq_core] at e
    simpa using e
  have last : '@' ∉ y := by
    intro mem
    have count := congrArg (List.count '@') cut
    simp only [List.count_append, List.count_cons_self, List.count_nil,
      List.count_eq_zero_of_not_mem hv.at_not_mem_core] at count
    have := List.count_pos_iff.2 mem
    omega
  obtain ⟨same, -⟩ := split_last last (by simp) cut
  rw [core, core, ← List.append_assoc] at same
  obtain ⟨-, -, password⟩ := hu.eq_of_userinfoCore_eq hv same
  exact password

/-- **No password is left open**: every URL password in a masked text is the mask. -/
theorem password_eq_mask_of_infix_maskUrls {s : List Char} {u : UrlPassword} (hu : u.WellFormed)
    (occurs : u.text <:+: maskUrls s) : u.password = mask := by
  induction s using url_induction with
  | nil => exact absurd (List.infix_nil.1 occurs) u.text_ne_nil
  | url v r wf ih =>
    rw [maskUrls_text_append wf] at occurs
    rcases List.infix_append_iff_ne_nil.1 occurs with within | later | ⟨x, y, nx, ny, e, ends, -⟩
    · exact hu.password_eq_of_infix wf.hide within
    · exact ih later
    · -- the at sign of `v` would be one before the end of `u`
      obtain ⟨x', rfl⟩ : ∃ x', x = x' ++ ['@'] := by
        obtain ⟨w, e⟩ := ends
        rw [UrlPassword.text_eq_core] at e
        rcases List.append_eq_append_iff.1 e with ⟨a, -, rfl⟩ | ⟨a, rfl, one⟩
        · exact ⟨a, rfl⟩
        · cases a with
          | nil => exact ⟨[], by simpa using one.symm⟩
          | cons d a => simp_all
      obtain ⟨y', d, rfl⟩ := List.eq_nil_or_concat y |>.resolve_left ny
      rw [UrlPassword.text_eq_core, List.concat_eq_append, ← List.append_assoc] at e
      have core := (List.append_inj' e rfl).1
      exact absurd (by simp [core]) hu.at_not_mem_core
  | keep c r absent ih =>
    rw [maskUrls_cons absent] at occurs
    rcases List.infix_cons_iff.1 occurs with ⟨z, e⟩ | later
    · obtain ⟨d, q, scheme, alpha, all⟩ := hu.scheme
      rw [UrlPassword.text, scheme] at e
      obtain ⟨rfl, rest⟩ :
          d = c ∧ q ++ ':' :: '/' :: '/' :: (u.user ++ ':' :: (u.password ++ '@' :: z)) = maskUrls r := by
        simpa using e
      obtain ⟨pw, y, rfl, chars, ne⟩ := of_maskUrls_eq_scheme all hu.user hu.password hu.nonempty rest.symm
      refine absurd ?_ (absent ⟨d :: q, u.user, pw⟩ ⟨⟨d, q, rfl, alpha, all⟩, hu.user, chars, ne⟩)
      exact ⟨y, by simp [UrlPassword.text]⟩
    · exact ih later

theorem not_openPassword_maskUrls (s : List Char) : ¬ OpenPassword (maskUrls s) := by
  rintro ⟨u, wf, occurs, other⟩
  exact other (password_eq_mask_of_infix_maskUrls wf occurs)

theorem maskUrls_maskUrls (s : List Char) : maskUrls (maskUrls s) = maskUrls s :=
  maskUrls_eq_self (not_openPassword_maskUrls s)

/-- What the masking of one password leaves true the masking of all leaves true. -/
theorem maskUrls_invariant {P : List Char → Prop}
    (step : ∀ x u y, UrlPassword.WellFormed u → P (x ++ (u.text ++ y)) → P (x ++ (u.hide.text ++ y)))
    {s : List Char} (h : P s) : P (maskUrls s) := by
  suffices all : ∀ x, P (x ++ s) → P (x ++ maskUrls s) from all [] h
  clear h
  induction s using url_induction with
  | nil => exact fun x h => h
  | url u r wf ih =>
    intro x h
    rw [maskUrls_text_append wf, ← List.append_assoc]
    apply ih
    rw [List.append_assoc]
    exact step x u r wf h
  | keep c r absent ih =>
    intro x h
    have shift : ∀ t, x ++ c :: t = (x ++ [c]) ++ t := by simp
    rw [maskUrls_cons absent, shift]
    rw [shift] at h
    exact ih (x ++ [c]) h

/-- A URL password cut around the password. -/
theorem UrlPassword.append_text_append (u : UrlPassword) (x y : List Char) :
    x ++ (u.text ++ y)
      = (x ++ u.scheme ++ ':' :: '/' :: '/' :: (u.user ++ [':'])) ++ (u.password ++ '@' :: y) := by
  simp [text]

/-- A text apart from the mask does not come into being. -/
theorem not_infix_maskUrls {v s : List Char} (h : Apart v mask) (absent : ¬ v <:+: s) : ¬ v <:+: maskUrls s := by
  refine maskUrls_invariant (P := fun s => ¬ v <:+: s) ?_ absent
  intro x u y wf before after
  rw [u.append_text_append] at before
  rw [u.hide.append_text_append] at after
  rcases h.infix_of_infix_around after with left | right
  · exact before (List.infix_append_of_infix_left left)
  · exact before (List.infix_append_of_infix_right (List.infix_append_of_infix_right right))

end Lookout.Redaction
