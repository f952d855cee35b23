import Lookout.Proofs.Redaction.Bridge

/-!
# Which values are hidden

The values of credential arguments are masked one after the other. A value that is apart from the mask does
not come back, whatever else is masked, and a value that holds an open URL password cannot stay. Any other
value that is not part of the mask is laid open by some test: masking a second value puts a mask where it
completes the first one, whose turn is over.
-/

namespace Lookout.Redaction
set_option autoImplicit false
open Text

theorem mem_secrets_iff {a : Arguments} {s : List Char} :
    s ∈ secrets a ↔ ∃ name value, (name, value) ∈ a.entries ∧ isCredential name = true ∧ value ≠ "" ∧
      value.toList = s := by
  simp only [secrets, List.mem_filterMap, Option.ite_none_right_eq_some, Bool.and_eq_true, bne_iff_ne,
    Option.some.injEq, Prod.exists, and_assoc]

theorem ne_nil_of_mem_secrets {a : Arguments} {s : List Char} (mem : s ∈ secrets a) : s ≠ [] := by
  obtain ⟨name, value, -, -, nonempty, rfl⟩ := mem_secrets_iff.1 mem
  simpa using nonempty

/-- Masking another value does not bring back a value that is apart from the mask. -/
theorem not_infix_maskValue {v w line : List Char} (h : Apart v mask) (nonempty : w ≠ [])
    (absent : ¬ v <:+: line) : ¬ v <:+: maskValue line w := by
  by_cases part : w <:+: mask
  · rw [maskValue_of_part part]
    intro occurs
    obtain ⟨q, mem, within⟩ := h.infix_of_infix_intercalate occurs
    obtain ⟨p, here, rfl⟩ := List.mem_map.1 mem
    refine h.not_infix_replaceAll nonempty ?_ within
    exact fun before => absent (before.trans (infix_of_mem_pieces mask_ne_nil here))
  · rw [maskValue_of_not_part part]
    generalize maxPasses = passes
    induction passes generalizing line with
    | zero => exact absent
    | succ n ih =>
      by_cases occurs : w <:+: line
      · rw [maskPasses_succ occurs]
        exact ih (h.not_infix_replaceAll nonempty absent)
      · rwa [maskPasses_eq_self occurs]

theorem not_infix_foldl_maskValue {v : List Char} (h : Apart v mask) {ss : List (List Char)}
    (each : ∀ w ∈ ss, w ≠ []) {line : List Char} (absent : ¬ v <:+: line) :
    ¬ v <:+: ss.foldl maskValue line := by
  refine List.foldlRecOn (motive := fun line => ¬ v <:+: line) ss maskValue absent ?_
  intro line absent w mem
  exact not_infix_maskValue h (each w mem) absent

/-- A secret that is apart from the mask is gone. -/
theorem not_infix_redact_of_apart {v : List Char} (h : Apart v mask) {ss : List (List Char)}
    (each : ∀ w ∈ ss, w ≠ []) (mem : v ∈ ss) (line : List Char) : ¬ v <:+: redact ss line := by
  obtain ⟨front, back, rfl⟩ := List.append_of_mem mem
  unfold redact
  rw [List.foldl_append, List.foldl_cons]
  apply not_infix_maskUrls h
  apply not_infix_foldl_maskValue h fun w later => each w (by simp [later])
  rw [maskValue_of_apart h]
  exact h.not_infix_replaceAll_self _

/-- A text with an open password is gone. -/
theorem not_infix_redact_of_openPassword {v : List Char} (h : OpenPassword v) (ss : List (List Char))
    (line : List Char) : ¬ v <:+: redact ss line := by
  obtain ⟨u, wf, within, other⟩ := h
  intro occurs
  exact not_openPassword_maskUrls _ ⟨u, wf, within.trans occurs, other⟩

theorem isCredential_password : isCredential "password" = true := by
  decide +kernel

theorem isCredential_token : isCredential "token" = true := by
  decide +kernel

theorem ne_empty_of_not_part {v : String} (notPart : ¬ v.toList <:+: mask) : v ≠ "" := by
  rintro rfl
  exact notPart List.nil_infix

/-- A test in which the value does not occur until a second value is masked. -/
def completing (v : String) (a b : List Char) : Test where
  kind := "tcp"
  target := "host"
  input := String.ofList (a ++ (standIn v.toList ++ b))
  arguments := {
    entries := [("password", v), ("token", String.ofList (standIn v.toList))]
    sorted := List.pairwise_pair.2 (by decide : "password" < "token") }

theorem secrets_completing {v : String} (nonempty : v ≠ "") (a b : List Char) :
    secrets (completing v a b).arguments = [v.toList, standIn v.toList] := by
  have filled : String.ofList (standIn v.toList) ≠ "" := by
    intro e
    exact standIn_ne_nil v.toList (by simpa using congrArg String.toList e)
  simp [completing, secrets, isCredential_password, isCredential_token, nonempty, filled]

/-- The masked line of the test has the value in it. -/
theorem sanitize_completing {v : String} {a b : List Char} (h : Bridge v.toList a b)
    (notPart : ¬ v.toList <:+: mask) (closed : ¬ OpenPassword v.toList) :
    (completing v a b).sanitize.toList = a ++ (mask ++ b) := by
  have nonempty := ne_empty_of_not_part notPart
  have first : maskValue (a ++ (standIn v.toList ++ b)) v.toList = a ++ (standIn v.toList ++ b) := by
    rw [maskValue_of_not_part notPart, maskPasses_eq_self h.not_infix_standIn]
  have second : maskValue (a ++ (standIn v.toList ++ b)) (standIn v.toList) = a ++ (mask ++ b) := by
    rw [maskValue_of_apart (standIn_apart _), h.replaceAll_standIn]
  unfold Test.sanitize
  rw [secrets_completing nonempty, String.toList_ofList]
  simp only [completing, String.toList_ofList, redact, List.foldl_cons, List.foldl_nil]
  rw [first, second, maskUrls_eq_self (h.closed closed)]

/-- **The values that every test hides** are those apart from the mask and those that hold an open URL
password; a value that is part of the mask need not be hidden. -/
theorem value_hidden_iff (v : String) :
    (∀ (t : Test) (name : String), (name, v) ∈ t.arguments.entries → isCredential name = true → v ≠ "" →
        ¬ v.toList <:+: mask → ¬ v.toList <:+: t.sanitize.toList) ↔
      v.toList <:+: mask ∨ Apart v.toList mask ∨ OpenPassword v.toList := by
  constructor
  · intro hidden
    by_contra otherwise
    simp only [not_or] at otherwise
    obtain ⟨notPart, touches, closed⟩ := otherwise
    obtain ⟨a, b, bridge⟩ := exists_bridge notPart touches
    have nonempty := ne_empty_of_not_part notPart
    refine hidden (completing v a b) "password" (by simp [completing]) isCredential_password nonempty notPart ?_
    rw [sanitize_completing bridge notPart closed]
    exact bridge.forms
  · intro h t name mem credential nonempty notPart
    have secret : v.toList ∈ secrets t.arguments := mem_secrets_iff.2 ⟨name, v, mem, credential, nonempty, rfl⟩
    unfold Test.sanitize
    rw [String.toList_ofList]
    rcases h with part | apart | opened
    · exact absurd part notPart
    · exact not_infix_redact_of_apart apart (fun w => ne_nil_of_mem_secrets) secret _
    · exact not_infix_redact_of_openPassword opened _ _

example : Apart "hunter2".toList mask ∧ ¬ Apart "Dx".toList mask ∧ ¬ "Dx".toList <:+: mask := by
  decide

/-- A test with a password that its line holds once, and with a path that ends in the token and a letter more. -/
def pathTest : Test where
  kind := "ftp"
  target := "host"
  input := "host must run ftp with password Dx with path yzx with token yz"
  arguments := .ofList [("password", "Dx"), ("path", "yzx"), ("token", "yz")]

/-- The mask of the token completes the password within the path, where it stays. -/
theorem completed_password_shown :
    ("password", "Dx") ∈ pathTest.arguments.entries ∧ isCredential "password" = true ∧ "Dx" ≠ "" ∧
      ¬ "Dx".toList <:+: mask ∧
      pathTest.sanitize = "host must run ftp with password CENSORED with path CENSOREDx with token CENSORED" ∧
      "Dx".toList <:+: pathTest.sanitize.toList :=
  ⟨by decide +kernel, isCredential_password, by decide, by decide, by decide +kernel,
    occursIn_iff.1 (by decide +kernel)⟩

end Lookout.Redaction
