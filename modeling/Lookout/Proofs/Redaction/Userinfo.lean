import Lookout.Proofs.Redaction.Url

/-!
# Userinfo that stays

`://user:password@` is masked where a scheme stands in front of it. A userinfo without a scheme stands apart
from all URL passwords and is not changed, and these are the only ones that a masked text shows.
-/

namespace Lookout.Redaction
set_option autoImplicit false
open Text

/-- `://user:password@`. -/
def UrlPassword.userinfo (u : UrlPassword) : List Char :=
  ':' :: '/' :: '/' :: (u.user ++ ':' :: (u.password ++ ['@']))

theorem UrlPassword.text_eq_userinfo (u : UrlPassword) : u.text = u.scheme ++ u.userinfo := rfl

/-- Something that can be read as a scheme stands at the end. -/
def EndsInScheme (s : List Char) : Prop :=
  ∃ x c q, s = x ++ c :: q ∧ c.isAlpha = true ∧ ∀ d ∈ q, isSchemeChar d = true

/-- The userinfo occurs where no scheme is in front of it. -/
def Bare (u : UrlPassword) (s : List Char) : Prop :=
  ∃ a b, s = a ++ (u.userinfo ++ b) ∧ ¬ EndsInScheme a

/-- No scheme reaches over an at sign. -/
theorem endsInScheme_append_at_iff {x s : List Char} : EndsInScheme (x ++ '@' :: s) ↔ EndsInScheme s := by
  constructor
  · rintro ⟨y, c, q, e, alpha, chars⟩
    rcases List.append_eq_append_iff.1 e with ⟨z, -, rest⟩ | ⟨z, -, rest⟩
    · cases z with
      | nil =>
        obtain rfl := (List.cons.inj rest).1
        cases alpha
      | cons d z => exact ⟨z, c, q, (List.cons.inj rest).2, alpha, chars⟩
    · cases z with
      | nil =>
        obtain rfl := (List.cons.inj rest).1
        cases alpha
      | cons d z =>
        have mem : '@' ∈ q := by
          rw [(List.cons.inj rest).2]
          simp
        exact absurd mem (UrlPassword.not_mem_of_all chars (by decide))
  · rintro ⟨y, c, q, rfl, alpha, chars⟩
    exact ⟨x ++ '@' :: y, c, q, by simp, alpha, chars⟩

theorem UrlPassword.userinfo_eq_core (u : UrlPassword) : u.userinfo = u.userinfoCore ++ ['@'] := by
  simp [userinfo, userinfoCore]

/-- A userinfo that ends where a URL password ends begins after its scheme. -/
theorem eq_scheme_of_same_end {u v : UrlPassword} (hu : u.WellFormed) (hv : v.WellFormed) {x a : List Char}
    (e : x ++ v.core = a ++ u.userinfoCore) : a = x ++ v.scheme := by
  rw [UrlPassword.core, ← List.append_assoc] at e
  obtain ⟨same, -⟩ := hv.eq_of_userinfoCore_eq hu e
  exact same.symm

/-- Where a userinfo can be in a text with a URL password: in front of it, in it, or behind it. -/
theorem userinfo_around_text {u v : UrlPassword} (hu : u.WellFormed) (hv : v.WellFormed) {x y a b : List Char}
    (e : x ++ (v.text ++ y) = a ++ (u.userinfo ++ b)) :
    (∃ r, x = a ++ (u.userinfo ++ r)) ∨ a = x ++ v.scheme ∨
      ∃ r, a = x ++ (v.text ++ r) ∧ y = r ++ (u.userinfo ++ b) := by
  have ends : (x ++ v.core) ++ '@' :: y = (a ++ u.userinfoCore) ++ '@' :: b := by
    simpa [UrlPassword.text_eq_core, UrlPassword.userinfo_eq_core] using e
  rcases List.append_eq_append_iff.1 ends with ⟨z, split, rest⟩ | ⟨z, split, rest⟩
  · cases z with
    | nil => exact .inr (.inl (eq_scheme_of_same_end hu hv (by simpa using split.symm)))
    | cons d z =>
      obtain ⟨rfl, later⟩ := List.cons.inj rest
      obtain ⟨r, front, rfl⟩ := append_eq_append_cons hu.at_not_mem_userinfoCore split
      refine .inr (.inr ⟨r, ?_, ?_⟩)
      · rw [front, UrlPassword.text_eq_core]
        simp
      · rw [later, UrlPassword.userinfo_eq_core]
        simp
  · cases z with
    | nil => exact .inr (.inl (eq_scheme_of_same_end hu hv (by simpa using split)))
    | cons d z =>
      obtain ⟨rfl, -⟩ := List.cons.inj rest
      obtain ⟨r, front, -⟩ := append_eq_append_cons hv.at_not_mem_core split
      refine .inl ⟨r, ?_⟩
      rw [front, UrlPassword.userinfo_eq_core]
      simp

/-- A URL password neither has a bare userinfo nor makes one bare. -/
theorem bare_append_text_iff {u v : UrlPassword} (hu : u.WellFormed) (hv : v.WellFormed) {x y : List Char} :
    Bare u (x ++ (v.text ++ y)) ↔ Bare u x ∨ Bare u y := by
  have behind : ∀ r, EndsInScheme (x ++ (v.text ++ r)) ↔ EndsInScheme r := by
    intro r
    have cut : x ++ (v.text ++ r) = (x ++ v.core) ++ '@' :: r := by simp [UrlPassword.text_eq_core]
    rw [cut, endsInScheme_append_at_iff]
  constructor
  · rintro ⟨a, b, e, noScheme⟩
    rcases userinfo_around_text hu hv e with ⟨r, front⟩ | rfl | ⟨r, rfl, back⟩
    · exact .inl ⟨a, r, front, noScheme⟩
    · obtain ⟨c, q, scheme, alpha, chars⟩ := hv.scheme
      exact absurd ⟨x, c, q, by rw [scheme], alpha, chars⟩ noScheme
    · exact .inr ⟨r, b, back, fun ends => noScheme ((behind r).2 ends)⟩
  · rintro (⟨a, r, rfl, noScheme⟩ | ⟨r, b, rfl, noScheme⟩)
    · exact ⟨a, r ++ (v.text ++ y), by simp, noScheme⟩
    · exact ⟨x ++ (v.text ++ r), b, by simp, fun ends => noScheme ((behind r).1 ends)⟩

theorem bare_maskUrls_iff {u : UrlPassword} (hu : u.WellFormed) {s : List Char} :
    Bare u (maskUrls s) ↔ Bare u s := by
  refine maskUrls_invariant (P := fun t => Bare u t ↔ Bare u s) ?_ Iff.rfl
  intro x v y hv before
  rw [bare_append_text_iff hu hv] at before
  rw [bare_append_text_iff hu hv.hide, before]

/-- **The userinfo that a masked text shows** stands there without a scheme, and stood there before. -/
theorem userinfo_infix_maskUrls_iff {u : UrlPassword} (hu : u.WellFormed) (other : u.password ≠ mask)
    {s : List Char} : u.userinfo <:+: maskUrls s ↔ Bare u s := by
  rw [← bare_maskUrls_iff hu]
  constructor
  · rintro ⟨a, b, e⟩
    refine ⟨a, b, by simpa using e.symm, ?_⟩
    rintro ⟨x, c, q, rfl, alpha, chars⟩
    have wf : UrlPassword.WellFormed { u with scheme := c :: q } :=
      ⟨⟨c, q, rfl, alpha, chars⟩, hu.user, hu.password, hu.nonempty⟩
    have occurs : UrlPassword.text { u with scheme := c :: q } <:+: maskUrls s := by
      refine ⟨x, b, ?_⟩
      rw [← e, UrlPassword.text_eq_userinfo]
      simp [UrlPassword.userinfo]
    exact other (password_eq_mask_of_infix_maskUrls (u := { u with scheme := c :: q }) wf occurs)
  · rintro ⟨a, b, e, -⟩
    exact ⟨a, b, by simp [e]⟩

end Lookout.Redaction
