import Lookout.Proofs.Redaction.Hiding

/-!
# Redacting a redacted line

A redacted line in which no secret is left to be masked is not changed when it is redacted again. So it is if
all secrets are plain, and if each of them is apart from the mask or has an open URL password. A value that a
mask completes is masked only the second time.
-/

namespace Lookout.Redaction
set_option autoImplicit false
open Text

/-- A redacted line that the masking of no secret changes is redacted to itself. -/
theorem redact_redact {ss : List (List Char)} {line : List Char}
    (calm : ∀ s ∈ ss, maskValue (redact ss line) s = redact ss line) :
    redact ss (redact ss line) = redact ss line := by
  have values : ss.foldl maskValue (redact ss line) = redact ss line := by
    refine List.foldlRecOn (motive := fun l => l = redact ss line) ss maskValue rfl ?_
    intro l same s mem
    rw [same, calm s mem]
  rw [redact, values, redact, maskUrls_maskUrls]

theorem not_exposed_foldl_maskValue {v : List Char} {ss : List (List Char)} (plain : ∀ s ∈ ss, Plain s)
    (each : ∀ s ∈ ss, s ≠ []) {line : List Char} (hidden : ¬ Exposed v line) :
    ¬ Exposed v (ss.foldl maskValue line) := by
  refine List.foldlRecOn (motive := fun line => ¬ Exposed v line) ss maskValue hidden ?_
  intro line hidden w mem
  exact not_exposed_maskValue (plain w mem) (each w mem) hidden

/-- Plain secrets are not exposed once all of them have been masked. -/
theorem not_exposed_redact {ss : List (List Char)} (plain : ∀ s ∈ ss, Plain s) (each : ∀ s ∈ ss, s ≠ [])
    {v : List Char} (mem : v ∈ ss) (line : List Char) : ¬ Exposed v (redact ss line) := by
  obtain ⟨front, back, rfl⟩ := List.append_of_mem mem
  unfold redact
  rw [List.foldl_append, List.foldl_cons]
  apply not_exposed_maskUrls
  apply not_exposed_foldl_maskValue
  · exact fun w later => plain w (by simp [later])
  · exact fun w later => each w (by simp [later])
  · exact not_exposed_maskValue_self (plain v mem) (each v mem) _

theorem redact_redact_of_plain {ss : List (List Char)} (plain : ∀ s ∈ ss, Plain s) (each : ∀ s ∈ ss, s ≠ [])
    (line : List Char) : redact ss (redact ss line) = redact ss line := by
  apply redact_redact
  intro s mem
  exact maskValue_eq_self (plain s mem) (not_exposed_redact plain each mem line)

/-- A text with an open password is not part of the mask. -/
theorem OpenPassword.not_part {v : List Char} (h : OpenPassword v) : ¬ v <:+: mask := by
  obtain ⟨u, -, within, -⟩ := h
  intro part
  have colon : ':' ∈ mask := (within.trans part).subset (by simp [UrlPassword.text])
  exact absurd colon (by decide)

theorem redact_redact_of_hidden {ss : List (List Char)} (hidden : ∀ s ∈ ss, Apart s mask ∨ OpenPassword s)
    (each : ∀ s ∈ ss, s ≠ []) (line : List Char) : redact ss (redact ss line) = redact ss line := by
  apply redact_redact
  intro s mem
  have absent : ¬ s <:+: redact ss line := by
    rcases hidden s mem with apart | opened
    · exact not_infix_redact_of_apart apart each mem line
    · exact not_infix_redact_of_openPassword opened ss line
  have notPart : ¬ s <:+: mask := by
    rcases hidden s mem with apart | opened
    · exact apart.notIn
    · exact opened.not_part
  rw [maskValue_of_not_part notPart, maskPasses_eq_self absent]

/-- Redacted again, the line that a mask completed has not the value in it. -/
theorem not_infix_redact_of_bridge {v a b : List Char} (h : Bridge v a b) :
    ¬ v <:+: redact [v, standIn v] (a ++ (mask ++ b)) := by
  have letters := h.letters
  have gone := h.gone
  simp only [redact, List.foldl_cons, List.foldl_nil]
  generalize maskValue (a ++ (mask ++ b)) v = masked at letters gone ⊢
  have noStandIn : ¬ standIn v <:+: masked := by
    intro occurs
    have mem : 'x' ∈ masked := occurs.subset (by simp [standIn])
    exact absurd (letters 'x' mem) (by decide)
  have closed : ¬ OpenPassword masked := by
    rintro ⟨u, -, within, -⟩
    have mem : ':' ∈ masked := within.subset (by simp [UrlPassword.text])
    exact absurd (letters ':' mem) (by decide)
  rw [maskValue_of_apart (standIn_apart v), replaceAll_eq_self mask noStandIn, maskUrls_eq_self closed]
  exact gone

/-- The test with its redacted line in place of the line. -/
def sanitized (t : Test) : Test :=
  { t with input := t.sanitize }

/-- Sanitizing again redacts the redacted line. -/
theorem sanitize_sanitized (t : Test) :
    (sanitized t).sanitize =
      String.ofList (redact (secrets t.arguments) (redact (secrets t.arguments) t.input.toList)) := by
  simp [sanitized, Test.sanitize]

theorem sanitize_sanitized_of_plain {t : Test} (plain : ∀ s ∈ secrets t.arguments, Plain s) :
    (sanitized t).sanitize = t.sanitize := by
  rw [sanitize_sanitized, redact_redact_of_plain plain fun s => ne_nil_of_mem_secrets, Test.sanitize]

theorem sanitize_sanitized_of_hidden {t : Test}
    (hidden : ∀ s ∈ secrets t.arguments, Apart s mask ∨ OpenPassword s) :
    (sanitized t).sanitize = t.sanitize := by
  rw [sanitize_sanitized, redact_redact_of_hidden hidden fun s => ne_nil_of_mem_secrets, Test.sanitize]

/-- The test in which a second mask completes a value is sanitized to something else again. -/
theorem sanitize_completing_ne {v : String} {a b : List Char} (h : Bridge v.toList a b)
    (notPart : ¬ v.toList <:+: mask) (closed : ¬ OpenPassword v.toList) :
    (sanitized (completing v a b)).sanitize ≠ (completing v a b).sanitize := by
  intro same
  have nonempty := ne_empty_of_not_part notPart
  have once := sanitize_completing h notPart closed
  have twice : ¬ v.toList <:+: (sanitized (completing v a b)).sanitize.toList := by
    rw [Test.sanitize, String.toList_ofList, sanitized, once, secrets_completing nonempty]
    exact not_infix_redact_of_bridge h
  rw [same, once] at twice
  exact twice h.forms

/-- A value that is plain or has an open password, beside values that are apart from the mask. -/
theorem plain_or_hidden_of_others {v : List Char} {ss : List (List Char)}
    (h : v <:+: mask ∨ Apart v mask ∨ OpenPassword v) (others : ∀ s ∈ ss, s = v ∨ Apart s mask) :
    (∀ s ∈ ss, s <:+: mask ∨ Apart s mask) ∨ ∀ s ∈ ss, Apart s mask ∨ OpenPassword s := by
  rcases h with part | apart | opened
  · left
    intro s mem
    rcases others s mem with rfl | other
    · exact .inl part
    · exact .inr other
  · left
    intro s mem
    rcases others s mem with rfl | other
    · exact .inr apart
    · exact .inr other
  · right
    intro s mem
    rcases others s mem with rfl | other
    · exact .inr opened
    · exact .inl other

/-- **Sanitizing twice is sanitizing once** if every secret is part of the mask or apart from it, and also if
every secret is apart from the mask or has an open URL password. No other value can stand beside secrets that
are apart from the mask: some test with it is changed by sanitizing again. -/
theorem sanitize_idempotent_iff (v : String) :
    (∀ t : Test, (∀ s ∈ secrets t.arguments, s <:+: mask ∨ Apart s mask) ∨
          (∀ s ∈ secrets t.arguments, Apart s mask ∨ OpenPassword s) →
        (sanitized t).sanitize = t.sanitize) ∧
      ((∀ t : Test, (∀ s ∈ secrets t.arguments, s = v.toList ∨ Apart s mask) →
          (sanitized t).sanitize = t.sanitize) ↔
        v.toList <:+: mask ∨ Apart v.toList mask ∨ OpenPassword v.toList) := by
  have enough : ∀ t : Test, (∀ s ∈ secrets t.arguments, s <:+: mask ∨ Apart s mask) ∨
      (∀ s ∈ secrets t.arguments, Apart s mask ∨ OpenPassword s) →
      (sanitized t).sanitize = t.sanitize := by
    rintro t (plain | hidden)
    · exact sanitize_sanitized_of_plain plain
    · exact sanitize_sanitized_of_hidden hidden
  refine ⟨enough, ?_, ?_⟩
  · intro idempotent
    by_contra otherwise
    simp only [not_or] at otherwise
    obtain ⟨notPart, touches, closed⟩ := otherwise
    obtain ⟨a, b, bridge⟩ := exists_bridge notPart touches
    refine sanitize_completing_ne bridge notPart closed (idempotent _ ?_)
    rw [secrets_completing (ne_empty_of_not_part notPart)]
    intro s mem
    rcases List.mem_pair.1 mem with rfl | rfl
    · exact .inl rfl
    · exact .inr (standIn_apart v.toList)
  · intro h t others
    exact enough t (plain_or_hidden_of_others h others)

/-- The password that the first mask of the token completed is masked the second time. -/
theorem completed_password_masked_later :
    pathTest.sanitize = "host must run ftp with password CENSORED with path CENSOREDx with token CENSORED" ∧
      (sanitized pathTest).sanitize =
        "host must run ftp with password CENSORED with path CENSORECENSORED with token CENSORED" ∧
      (sanitized pathTest).sanitize ≠ pathTest.sanitize := by
  decide +kernel

end Lookout.Redaction
