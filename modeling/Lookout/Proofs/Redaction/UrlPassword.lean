import Lookout.Redaction
import Lookout.Proofs.Text.Joining

/-!
# Where URL passwords stand

The texts `scheme://user:password@` that the masking of URLs looks for, and the masking by the two things
that can happen at the head of a text: such a text is masked as a whole, or one character is kept. A URL
password has one at sign, at its end, and after its last slash the user ends at the first colon, so two
that end in the same place have the same password.
-/

namespace Lookout.Redaction
set_option autoImplicit false
open Text

namespace UrlPassword

/-- `scheme://user:password@`. -/
def text (u : UrlPassword) : List Char :=
  u.scheme ++ ':' :: '/' :: '/' :: (u.user ++ ':' :: (u.password ++ ['@']))

/-- The parts of a URL password as the masking looks for them. -/
structure WellFormed (u : UrlPassword) : Prop where
  scheme : ∃ c s, u.scheme = c :: s ∧ c.isAlpha = true ∧ ∀ d ∈ s, isSchemeChar d = true
  user : ∀ c ∈ u.user, isUserChar c = true
  password : ∀ c ∈ u.password, isPasswordChar c = true
  nonempty : u.password ≠ []

/-- The same URL with its password masked. -/
def hide (u : UrlPassword) : UrlPassword :=
  { u with password := mask }

theorem masked_eq (u : UrlPassword) : u.masked = u.hide.text := by
  simp [masked, hide, text]

theorem length_text (u : UrlPassword) : u.text.length = u.length := by
  simp only [text, length, List.length_append, List.length_cons, List.length_nil]
  omega

theorem WellFormed.hide {u : UrlPassword} (h : u.WellFormed) : u.hide.WellFormed where
  scheme := h.scheme
  user := h.user
  password := List.all_eq_true.1 (by decide : mask.all isPasswordChar = true)
  nonempty := by simp only [UrlPassword.hide]; decide

theorem WellFormed.schemeChars {u : UrlPassword} (h : u.WellFormed) : ∀ c ∈ u.scheme, isSchemeChar c = true := by
  obtain ⟨c, s, e, alpha, all⟩ := h.scheme
  intro d mem
  rw [e] at mem
  rcases List.mem_cons.1 mem with rfl | mem
  · simp [isSchemeChar, Char.isAlphanum, alpha]
  · exact all d mem

/-- A character is not in a list of others. -/
theorem not_mem_of_all {p : Char → Bool} {s : List Char} {c : Char} (all : ∀ d ∈ s, p d = true)
    (other : p c = false) : c ∉ s := by
  intro mem
  rw [all c mem] at other
  cases other

namespace WellFormed

variable {u v : UrlPassword} (h : u.WellFormed)
include h

theorem colon_not_mem_scheme : ':' ∉ u.scheme := not_mem_of_all h.schemeChars (by decide)

theorem at_not_mem_scheme : '@' ∉ u.scheme := not_mem_of_all h.schemeChars (by decide)

theorem colon_not_mem_user : ':' ∉ u.user := not_mem_of_all h.user (by decide)

theorem slash_not_mem_user : '/' ∉ u.user := not_mem_of_all h.user (by decide)

theorem at_not_mem_user : '@' ∉ u.user := not_mem_of_all h.user (by decide)

theorem slash_not_mem_password : '/' ∉ u.password := not_mem_of_all h.password (by decide)

theorem at_not_mem_password : '@' ∉ u.password := not_mem_of_all h.password (by decide)

end WellFormed

theorem length_pos (u : UrlPassword) : 0 < u.length := by
  simp only [length]
  omega

theorem text_ne_nil (u : UrlPassword) : u.text ≠ [] := by
  simp [text]

/-- What follows the scheme, up to the at sign. -/
def userinfoCore (u : UrlPassword) : List Char :=
  ':' :: '/' :: '/' :: (u.user ++ ':' :: u.password)

/-- What a URL password is up to its at sign. -/
def core (u : UrlPassword) : List Char :=
  u.scheme ++ u.userinfoCore

theorem text_eq_core (u : UrlPassword) : u.text = u.core ++ ['@'] := by
  simp [text, core, userinfoCore]

theorem WellFormed.at_not_mem_userinfoCore {u : UrlPassword} (h : u.WellFormed) : '@' ∉ u.userinfoCore := by
  simp [userinfoCore, h.at_not_mem_user, h.at_not_mem_password]

theorem WellFormed.at_not_mem_core {u : UrlPassword} (h : u.WellFormed) : '@' ∉ u.core := by
  simp [core, h.at_not_mem_scheme, h.at_not_mem_userinfoCore]

/-- Two that end in the same place have the same user and the same password. -/
theorem WellFormed.eq_of_userinfoCore_eq {u v : UrlPassword} (hu : u.WellFormed) (hv : v.WellFormed)
    {x y : List Char} (e : x ++ u.userinfoCore = y ++ v.userinfoCore) :
    x = y ∧ u.user = v.user ∧ u.password = v.password := by
  have tail : '/' ∉ u.user ++ ':' :: u.password := by
    simp [hu.slash_not_mem_user, hu.slash_not_mem_password]
  have tail' : '/' ∉ v.user ++ ':' :: v.password := by
    simp [hv.slash_not_mem_user, hv.slash_not_mem_password]
  have cut : (x ++ [':', '/']) ++ '/' :: (u.user ++ ':' :: u.password)
      = (y ++ [':', '/']) ++ '/' :: (v.user ++ ':' :: v.password) := by
    simpa [userinfoCore] using e
  obtain ⟨front, back⟩ := split_last tail tail' cut
  obtain ⟨user, password⟩ := split_first hu.colon_not_mem_user hv.colon_not_mem_user back
  exact ⟨List.append_cancel_right front, user, password⟩

/-- What is read at the head of a text is a URL password there. -/
theorem of_atHead?_eq_some {s : List Char} {u : UrlPassword} (h : atHead? s = some u) :
    u.WellFormed ∧ u.text <+: s := by
  cases s with
  | nil => simp [atHead?] at h
  | cons c r =>
    simp only [atHead?] at h
    split at h
    · next alpha =>
      split at h
      · next afterScheme hs =>
        split at h
        · next afterUser hu =>
          split at h
          · next w ws z hw hz =>
            obtain rfl := Option.some.inj h
            have scheme := eq_takeWhile_append hs
            have user := eq_takeWhile_append hu
            have password := eq_takeWhile_append hz
            rw [hw, List.cons_append] at password
            refine ⟨⟨⟨c, _, rfl, alpha, fun d mem => List.mem_takeWhile_imp mem⟩, ?_, ?_, by simp⟩, z, ?_⟩
            · exact fun d mem => List.mem_takeWhile_imp mem
            · exact fun d mem => List.mem_takeWhile_imp (hw ▸ mem)
            · simp only [text, List.cons_append, List.append_assoc, List.nil_append]
              rw [← password, ← user, ← scheme]
          · cases h
        · cases h
      · cases h
    · cases h

/-- A URL password at the head of a text is read. -/
theorem WellFormed.atHead?_append {u : UrlPassword} (h : u.WellFormed) (r : List Char) :
    atHead? (u.text ++ r) = some u := by
  obtain ⟨c, s, e, alpha, all⟩ := h.scheme
  obtain ⟨w, ws, pw⟩ := List.exists_cons_of_ne_nil h.nonempty
  have split : u.text ++ r = c :: (s ++ ':' :: '/' :: '/' :: (u.user ++ ':' :: (u.password ++ '@' :: r))) := by
    simp [text, e]
  have noScheme : isSchemeChar ':' = false := by decide
  have noUser : isUserChar ':' = false := by decide
  have noPassword : isPasswordChar '@' = false := by decide
  rw [split]
  simp only [atHead?, alpha, if_true, dropWhile_append_cons all noScheme,
    dropWhile_append_cons h.user noUser, dropWhile_append_cons h.password noPassword,
    takeWhile_append_cons all noScheme, takeWhile_append_cons h.user noUser,
    takeWhile_append_cons h.password noPassword]
  rw [← e]
  have whole : u = ⟨u.scheme, u.user, w :: ws⟩ := by rw [← pw]
  simp only [pw]
  rw [← whole]

theorem atHead?_eq_none_iff {s : List Char} :
    atHead? s = none ↔ ∀ u : UrlPassword, u.WellFormed → ¬ u.text <+: s := by
  constructor
  · rintro h u wf ⟨r, rfl⟩
    rw [wf.atHead?_append r] at h
    cases h
  · intro h
    cases e : atHead? s with
    | none => rfl
    | some u =>
      obtain ⟨wf, begins⟩ := of_atHead?_eq_some e
      exact absurd begins (h u wf)

end UrlPassword

/-- Skipping characters masks the text without them. -/
theorem maskUrlsFrom_eq_drop (skip : Nat) (s : List Char) : maskUrlsFrom skip s = maskUrls (s.drop skip) := by
  induction s generalizing skip with
  | nil => cases skip <;> rfl
  | cons c r ih =>
    cases skip with
    | zero => rfl
    | succ k => simpa [maskUrlsFrom] using ih k

/-- A URL password at the head is masked. -/
theorem maskUrls_text_append {u : UrlPassword} (wf : u.WellFormed) (r : List Char) :
    maskUrls (u.text ++ r) = u.hide.text ++ maskUrls r := by
  have found := wf.atHead?_append r
  cases e : u.text with
  | nil => exact absurd e u.text_ne_nil
  | cons c s =>
    have size : u.length - 1 = s.length := by
      rw [← u.length_text, e]
      simp
    rw [e, List.cons_append] at found
    rw [List.cons_append, maskUrls, maskUrlsFrom, found]
    simp only
    rw [maskUrlsFrom_eq_drop, size, List.drop_left, u.masked_eq]

/-- Without a URL password at the head, its character is kept. -/
theorem maskUrls_cons {c : Char} {r : List Char} (absent : ∀ u : UrlPassword, u.WellFormed → ¬ u.text <+: c :: r) :
    maskUrls (c :: r) = c :: maskUrls r := by
  rw [maskUrls, maskUrlsFrom]
  simp only [UrlPassword.atHead?_eq_none_iff.2 absent]
  rfl

/-- Induction on a text as the masking of URLs goes through it. -/
theorem url_induction {motive : List Char → Prop} (nil : motive [])
    (url : ∀ u r, UrlPassword.WellFormed u → motive r → motive (u.text ++ r))
    (keep : ∀ c r, (∀ u, UrlPassword.WellFormed u → ¬ u.text <+: c :: r) → motive r → motive (c :: r))
    (s : List Char) : motive s := by
  generalize size : s.length = n
  induction n using Nat.strongRecOn generalizing s with
  | ind n ih =>
    subst size
    cases s with
    | nil => exact nil
    | cons c r =>
      by_cases here : ∃ u : UrlPassword, u.WellFormed ∧ u.text <+: c :: r
      · obtain ⟨u, wf, rest, e⟩ := here
        have shorter : rest.length < (c :: r).length := by
          have := u.length_pos
          rw [← e, List.length_append, u.length_text]
          omega
        exact e ▸ url u rest wf (ih _ shorter rest rfl)
      · refine keep c r (fun u wf begins => here ⟨u, wf, begins⟩) (ih _ (by simp) r rfl)

/-- How a masked text begins. -/
theorem maskUrls_eq_cons {s t : List Char} {c : Char} (e : maskUrls s = c :: t) :
    (∃ r, s = c :: r ∧ maskUrls r = t) ∨
      ∃ u r, UrlPassword.WellFormed u ∧ s = u.text ++ r ∧ u.hide.text ++ maskUrls r = c :: t := by
  cases s using url_induction with
  | nil => cases e
  | url u r wf _ => exact .inr ⟨u, r, wf, rfl, by rw [← maskUrls_text_append wf, e]⟩
  | keep d r absent _ =>
    rw [maskUrls_cons absent] at e
    obtain ⟨rfl, rest⟩ := List.cons.inj e
    exact .inl ⟨r, rfl, rest⟩

end Lookout.Redaction
