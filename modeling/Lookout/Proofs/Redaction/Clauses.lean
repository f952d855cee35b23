import Lookout.Proofs.JobLine.Reading
import Lookout.Proofs.Redaction.Hiding
import Mathlib.Algebra.Order.BigOperators.Group.List
import Mathlib.Algebra.Order.Group.Nat

/-!
# Credentials in a job line

A test keeps the last value of each name, and only these are masked in its line. So what a credential has been given
last is hidden, and what it was given before is not: nearly every value can be written in a line that shows it.
-/

namespace Lookout.Redaction
set_option autoImplicit false
open Text JobLine

/-- A text in front opens no password if a character at its end cannot be part of a scheme. -/
theorem not_openPassword_behind {a v : List Char} {d : Char} (noColon : ':' ∉ a ++ [d])
    (other : isSchemeChar d = false) (closed : ¬ OpenPassword v) : ¬ OpenPassword (a ++ [d] ++ v) := by
  rintro ⟨u, wf, occurs, shown⟩
  rcases List.infix_append_iff_ne_nil.1 occurs with within | later | ⟨x, z, nx, nz, split, ends, begins⟩
  · exact noColon (within.subset (by simp [UrlPassword.text]))
  · exact closed ⟨u, wf, later, shown⟩
  · obtain ⟨q, scheme, -⟩ := append_eq_cons_append (fun mem => noColon (ends.subset mem)) split.symm
    obtain ⟨x, c, rfl⟩ := (List.eq_nil_or_concat x).resolve_left nx
    obtain ⟨p, all⟩ := ends
    rw [List.concat_eq_append, ← List.append_assoc] at all
    obtain rfl : c = d := by simpa using (List.append_inj' all rfl).2
    have inScheme : c ∈ u.scheme := by simp [scheme]
    rw [wf.schemeChars c inScheme] at other
    cases other

theorem mem_of_lookup {l : List (String × String)} {name value : String} (found : l.lookup name = some value) :
    (name, value) ∈ l := by
  induction l with
  | nil => cases found
  | cons e l ih =>
    obtain ⟨n, v⟩ := e
    rw [List.lookup_cons] at found
    by_cases same : name = n
    · obtain rfl : v = value := by simpa [same] using found
      simp [same]
    · exact List.mem_cons_of_mem _ (ih (by simpa [beq_eq_false_iff_ne.2 same] using found))

variable {registry : Registry} {line name : String} {v : String} {cs : List (String × String)} {t : Test}

/-- What a credential has been given last is hidden. -/
theorem hidden_of_last (read : parse registry line = .ok (some t)) (asks : Asks line t.target t.kind cs)
    (credential : isCredential name = true) (last : cs.reverse.lookup name = some v) (nonempty : v ≠ "")
    (apart : Apart v.toList mask) : ¬ v.toList <:+: t.sanitize.toList := by
  obtain ⟨-, cs', asks', -, arguments, -⟩ := parse_eq_some_iff.1 read
  obtain rfl := asks.unique asks'
  have kept : (name, v) ∈ t.arguments.entries := by
    rw [← Arguments.get?_ofList, ← arguments] at last
    exact mem_of_lookup last
  have secret : v.toList ∈ secrets t.arguments := mem_secrets_iff.2 ⟨name, v, kept, credential, nonempty, rfl⟩
  unfold Test.sanitize
  rw [String.toList_ofList]
  exact not_infix_redact_of_apart apart (fun w => ne_nil_of_mem_secrets) secret _

/-- The words of a line that gives a password and then takes it back. -/
def retractingWords (kind v : String) : List String :=
  "host" :: "must" :: "run" :: kind :: clauseWords [("password", v), ("password", "")]

/-- The test that such a line asks for. -/
def retracting (kind v : String) : Test where
  kind := kind
  target := "host"
  input := String.ofList (render ((retractingWords kind v).map String.toList))
  arguments := .ofList [("password", v), ("password", "")]

/-- Some name is longer than those of all probes. -/
theorem exists_unregistered (registry : Registry) :
    ∃ n, registry.get? (String.ofList (List.replicate (n + 1) 'k')) = none := by
  refine ⟨(registry.probes.map fun p => p.name.length).sum, ?_⟩
  rw [Registry.get?, List.find?_eq_none]
  intro p mem same
  have short : p.name.length ≤ (registry.probes.map fun p => p.name.length).sum :=
    List.le_sum_of_mem (List.mem_map_of_mem mem)
  rw [beq_iff_eq.1 same, String.length_ofList, List.length_replicate] at short
  omega

theorem asks_retracting {kind : String} (bare : isBare kind.toList = true) (writable : Writable v.toList) :
    Asks (retracting kind v).input "host" kind [("password", v), ("password", "")] := by
  have all : ∀ w ∈ (retractingWords kind v).map String.toList, Writable w := by
    simp only [retractingWords, clauseWords, List.flatMap_cons, List.flatMap_nil, List.map_cons, List.map_nil,
      List.cons_append, List.nil_append, List.forall_mem_cons]
    have plain : ∀ w, isBare w = true → Writable w := fun w h => .inl h
    refine ⟨plain _ rfl, plain _ rfl, plain _ rfl, plain _ bare, plain _ rfl, plain _ rfl, writable, plain _ rfl,
      plain _ rfl, .inr (.inl (by decide)), by simp⟩
  unfold Asks retracting
  rw [String.toList_ofList, trim_render, tokens?_render all]
  rfl

theorem parse_retracting {kind : String} (unknown : registry.get? kind = none) (bare : isBare kind.toList = true)
    (writable : Writable v.toList) :
    parse registry (retracting kind v).input = .ok (some (retracting kind v)) := by
  refine parse_eq_some_iff.2 ⟨?_, _, asks_retracting bare writable, ?_, rfl, ?_⟩
  · have head : (trim (retracting kind v).input.toList).head? = some 'h' := by
      unfold retracting
      rw [String.toList_ofList, trim_render]
      exact head?_render _ _
    rintro (blank | comment)
    · rw [blank] at head
      cases head
    · rw [comment] at head
      cases head
  · unfold trimmed retracting
    simp [trim_render]
  · simp [validate, retracting, unknown]

/-- The value stands in the line between blanks or quotes. -/
theorem input_retracting (kind v : String) : ∃ a d b, (retracting kind v).input.toList = a ++ [d] ++ (v.toList ++ b) ∧
    (d = ' ' ∨ isQuote d = true) ∧ '@' ∉ b ∧ (':' ∉ kind.toList → ':' ∉ a ++ [d]) := by
  let front := ["host", "must", "run", kind, "with", "password"].map String.toList
  let back := ["with", "password", ""].map String.toList
  have split : (retractingWords kind v).map String.toList = front ++ ([v.toList] ++ back) := rfl
  obtain ⟨q, form, quotes⟩ := written_eq v.toList
  have noAt : '@' ∉ q ++ ' ' :: render back := by
    have later : '@' ∉ render back := not_mem_render (by decide) (by decide) (by decide)
    have inside : '@' ∉ q := fun mem => absurd (quotes _ mem) (by decide)
    simp [inside, later]
  have noColon : ':' ∉ kind.toList → ':' ∉ render front := by
    intro absent
    refine not_mem_render (by decide) (by decide) ?_
    simp only [front, List.map_cons, List.map_nil, List.forall_mem_cons]
    exact ⟨by decide, by decide, by decide, absent, by decide, by decide, by simp⟩
  have line : (retracting kind v).input.toList = render front ++ ' ' :: q ++ (v.toList ++ (q ++ ' ' :: render back)) := by
    unfold retracting
    rw [String.toList_ofList, split, render_append (by simp [front]) (by simp), render_append (by simp) (by simp [back]),
      render_singleton, form]
    simp
  rcases List.eq_nil_or_concat q with rfl | ⟨q, d, rfl⟩
  · exact ⟨render front, ' ', _, line, .inl rfl, noAt, fun absent => by simpa using noColon absent⟩
  · rw [List.concat_eq_append] at line quotes noAt
    refine ⟨render front ++ ' ' :: q, d, _, by simpa using line, .inr (quotes d (by simp)), noAt, ?_⟩
    intro absent
    have inside : ':' ∉ q ++ [d] := fun mem => absurd (quotes _ mem) (by decide)
    have outside := noColon absent
    rw [List.append_assoc, List.cons_append, List.mem_append, List.mem_cons]
    simp [outside, inside]

/-- The line of that test is published as it is. -/
theorem sanitize_retracting {kind : String} (noColon : ':' ∉ kind.toList) (closed : ¬ OpenPassword v.toList) :
    (retracting kind v).sanitize = (retracting kind v).input := by
  have noSecrets : secrets (retracting kind v).arguments = [] := by
    simp [retracting, Arguments.ofList, Arguments.insert, Arguments.empty, insertEntry, secrets]
  obtain ⟨a, d, b, form, side, noAt, front⟩ := input_retracting kind v
  have other : isSchemeChar d = false := by
    simp only [isQuote, Bool.or_eq_true, beq_iff_eq] at side
    rcases side with rfl | rfl | rfl <;> decide
  have shut : ¬ OpenPassword (retracting kind v).input.toList := by
    rw [form]
    exact not_openPassword_behind (front noColon) other (not_openPassword_back noAt closed)
  unfold Test.sanitize redact
  rw [noSecrets, List.foldl_nil, maskUrls_eq_self shut, String.ofList_toList]

/-- **The credentials of a line**: the value that a credential has been given last is hidden. Of any other value
that shares no character with the mask, some line shows it, unless it cannot be written or holds an open URL
password. -/
theorem written_value_hidden_iff (registry : Registry) {v : String} (nonempty : v ≠ "")
    (disjoint : ∀ c ∈ v.toList, c ∉ mask) :
    (∀ line t cs name, parse registry line = .ok (some t) → Asks line t.target t.kind cs → isCredential name = true →
        cs.reverse.lookup name = some v → ¬ v.toList <:+: t.sanitize.toList) ∧
      ((∀ line t cs name, parse registry line = .ok (some t) → Asks line t.target t.kind cs → (name, v) ∈ cs →
          isCredential name = true → ¬ v.toList <:+: t.sanitize.toList) ↔
        ¬ Writable v.toList ∨ OpenPassword v.toList) := by
  have apart : Apart v.toList mask := .of_disjoint (by simpa using nonempty) mask_ne_nil disjoint
  constructor
  · intro line t cs name read asks credential last
    exact hidden_of_last read asks credential last nonempty apart
  constructor
  · intro hidden
    by_contra shown
    rw [not_or, not_not] at shown
    obtain ⟨writable, closed⟩ := shown
    -- the kind is not registered, so that no argument is refused; the empty password takes `v` out of the map
    obtain ⟨n, unknown⟩ := exists_unregistered registry
    have letters : (String.ofList (List.replicate (n + 1) 'k')).toList = List.replicate (n + 1) 'k' := by simp
    have bare : isBare (String.ofList (List.replicate (n + 1) 'k')).toList = true := by
      rw [letters, List.replicate_succ, isBare_cons_iff]
      refine ⟨by decide, by decide, ?_⟩
      intro d mem
      rw [List.eq_of_mem_replicate mem]
      decide
    have noColon : ':' ∉ (String.ofList (List.replicate (n + 1) 'k')).toList := by
      rw [letters]
      intro mem
      exact absurd (List.eq_of_mem_replicate mem) (by decide)
    have read := parse_retracting unknown bare writable
    refine hidden _ _ _ "password" read (asks_retracting bare writable) (by simp) isCredential_password ?_
    obtain ⟨a, d, b, form, -⟩ := input_retracting (String.ofList (List.replicate (n + 1) 'k')) v
    rw [sanitize_retracting noColon closed, form]
    exact List.infix_append_of_infix_right List.infix_append_left
  · intro h line t cs name read asks mem credential
    rcases h with unwritable | opened
    · exact absurd (asks.writable mem) unwritable
    · unfold Test.sanitize
      rw [String.toList_ofList]
      exact not_infix_redact_of_openPassword opened _ _

/-- A registry with a probe that takes a password. -/
def passwordRegistry : Registry where
  probes := [{ name := "ftp", arguments := [("password", .anything)], resolves := false }]
  nodup := by simp

/-- `foo` is hidden where it is given last, and not in every line that gives it. -/
theorem foo_not_always_hidden :
    (∀ line t cs name, parse passwordRegistry line = .ok (some t) → Asks line t.target t.kind cs →
        isCredential name = true → cs.reverse.lookup name = some "foo" → ¬ "foo".toList <:+: t.sanitize.toList) ∧
      ¬ ∀ line t cs name, parse passwordRegistry line = .ok (some t) → Asks line t.target t.kind cs →
        (name, "foo") ∈ cs → isCredential name = true → ¬ "foo".toList <:+: t.sanitize.toList := by
  have disjoint : ∀ c ∈ "foo".toList, c ∉ mask := by
    intro c mem
    have letter : c = 'f' ∨ c = 'o' := by simpa using mem
    rcases letter with rfl | rfl <;> decide
  obtain ⟨last, all_iff⟩ := written_value_hidden_iff passwordRegistry (v := "foo") (by decide) disjoint
  refine ⟨last, fun all => ?_⟩
  rcases all_iff.1 all with unwritable | ⟨u, -, within, -⟩
  · exact unwritable (.inl rfl)
  · have colon : ':' ∈ "foo".toList := within.subset (by simp [UrlPassword.text])
    exact absurd colon (by decide)

/-- The test of a line that gives a password twice. -/
def doubledTest : Test where
  kind := "ftp"
  target := "host"
  input := "host must run ftp with password foo with password bar"
  arguments := .ofList [("password", "bar")]

/-- The first password stays in the line. -/
theorem first_password_shown :
    parse passwordRegistry doubledTest.input = .ok (some doubledTest) ∧
      Asks doubledTest.input "host" "ftp" [("password", "foo"), ("password", "bar")] ∧
        "foo".toList <:+: doubledTest.sanitize.toList := by
  refine ⟨by decide +kernel, ?_, occursIn_iff.1 (by decide +kernel)⟩
  unfold Asks
  decide +kernel

end Lookout.Redaction
