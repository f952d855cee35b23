import Lookout.Proofs.Redaction.Userinfo
import Lookout.Proofs.Text.Numerals
import Lookout.Proofs.Worker.Execution

/-!
# Passwords in published messages

A message shows the password of its test's URL if the target is published as it was given, which it is when
no addresses were found for it, or if the redacted line shows it. Only the line is redacted.
-/

namespace Lookout
set_option autoImplicit false
open Activity Redaction Text

/-- A field of the message shows the userinfo. -/
def ResultMessage.Discloses (m : ResultMessage) (u : UrlPassword) : Prop :=
  u.userinfo <:+: m.input.toList ∨ u.userinfo <:+: m.target.toList ∨
    ∃ e, m.error? = some e ∧ u.userinfo <:+: e.toList

/-- What the redacted line of a test shows of a userinfo. -/
theorem Test.userinfo_infix_sanitize_iff {t : Test} {u : UrlPassword} (hu : u.WellFormed)
    (other : u.password ≠ mask) :
    u.userinfo <:+: t.sanitize.toList ↔ Bare u ((secrets t.arguments).foldl maskValue t.input.toList) := by
  rw [Test.sanitize, String.toList_ofList, redact, userinfo_infix_maskUrls_iff hu other]

namespace Address

theorem slash_not_mem_textV4 (octets : Vector UInt8 4) : '/' ∉ textV4 octets := by
  refine not_mem_intercalate (by decide) ?_
  intro p mem
  obtain ⟨o, -, rfl⟩ := List.mem_map.1 mem
  exact not_mem_toDigits (by decide) (by decide) (by decide) _

theorem slash_not_mem_textGroups (groups : List UInt16) : '/' ∉ textGroups groups := by
  refine not_mem_intercalate (by decide) ?_
  intro p mem
  obtain ⟨g, -, rfl⟩ := List.mem_map.1 mem
  exact not_mem_toDigits (by decide) (by decide) (by decide) _

/-- No address has a slash in its text. -/
theorem slash_not_mem_text (a : Address) : '/' ∉ a.text.toList := by
  rw [text, String.toList_ofList]
  cases a with
  | v4 octets => exact slash_not_mem_textV4 octets
  | v6 groups =>
    simp only [chars]
    split
    · simp [slash_not_mem_textV4]
    · unfold textV6
      simp only
      split
      · exact slash_not_mem_textGroups _
      · simp [slash_not_mem_textGroups]

end Address

/-- A resolved target is the text of an address. -/
theorem slash_not_mem_targetsOf {f : Families} {found : List Address} {target : String}
    (mem : target ∈ targetsOf f found) : '/' ∉ target.toList := by
  obtain ⟨a, -, rfl⟩ := List.mem_map.1 (mem_distinct_iff.1 mem)
  exact a.slash_not_mem_text

namespace Worker

variable {w : Worker} {t : Test} {u : UrlPassword} {es : List Event}

/-- Addresses of the host of the target were found. -/
def Answered (es : List Event) : Prop :=
  ∃ host found, Event.lookup host (some found) ∈ es

theorem Located.not_answered {e : ResolveError} (h : Located w t es (.error e)) : ¬ Answered es := by
  rintro ⟨host, found, mem⟩
  generalize same : (Except.error e : Except ResolveError (List String)) = targets at h
  cases h with
  | noHost => cases mem
  | looked answer known =>
    have given : some found = answer := by
      have event := List.mem_singleton.1 mem
      injection event
    rw [← given] at same
    cases same

theorem Located.answered {targets : List String} (h : Located w t es (.ok targets)) :
    Answered es ∧ ∀ target ∈ targets, '/' ∉ target.toList := by
  generalize same : (Except.ok targets : Except ResolveError (List String)) = result at h
  cases h with
  | noHost => cases same
  | looked answer known =>
    cases answer with
    | none => cases same
    | some found =>
      obtain rfl : targets = targetsOf w.families found := by simpa [resolved] using same
      exact ⟨⟨_, found, List.mem_singleton_self _⟩, fun target => slash_not_mem_targetsOf⟩

/-- A visit looks nothing up. -/
theorem not_answered_visits {limit : Nat} (visits : List (Visit limit)) :
    ¬ Answered (visits.flatMap (Visit.events w t)) := by
  rintro ⟨host, found, mem⟩
  obtain ⟨v, -, here⟩ := List.mem_flatMap.1 mem
  simp [Visit.events, attempted, reported] at here

theorem not_answered_reported (m : ResultMessage) (accepted : Bool) : ¬ Answered (w.reported m accepted) := by
  rintro ⟨host, found, mem⟩
  simp [reported] at mem

theorem answered_append {es es' : List Event} : Answered (es ++ es') ↔ Answered es ∨ Answered es' := by
  simp only [Answered, List.mem_append, exists_or]

/-- The last failure is an answer of the probe. -/
theorem call_mem_events {limit : Nat} {v : Visit limit} {e : String} (failed : v.last? = some e) :
    Event.call (w.callOf t v.target) (some e) ∈ v.events w t := by
  simp [Visit.events, attempted, failed]

/-- A target that is published as it was given shows its userinfo. -/
theorem discloses_of_given {rest : List Char} (given : t.target.toList = u.text ++ rest) (failure : Option String)
    (now : Int64) : (t.message t.target failure now).Discloses u := by
  right
  left
  show u.userinfo <:+: t.target.toList
  rw [given, UrlPassword.text_eq_userinfo]
  exact ⟨u.scheme, rest, rfl⟩

/-- A message about a target without slashes shows what the redacted line shows. -/
theorem discloses_iff_of_noSlash {target : String} {failure : Option String} {now : Int64}
    (noSlash : '/' ∉ target.toList) (quiet : ∀ e, failure = some e → ¬ u.userinfo <:+: e.toList) :
    (t.message target failure now).Discloses u ↔ u.userinfo <:+: t.sanitize.toList := by
  constructor
  · rintro (line | shown | ⟨e, failed, shown⟩)
    · exact line
    · exact absurd (shown.subset (by simp [UrlPassword.userinfo])) noSlash
    · exact absurd shown (quiet e failed)
  · exact Or.inl

/-- The messages of a test show its URL password if no addresses were found or the redacted line shows it. -/
theorem Executed.discloses_iff {ms : List ResultMessage} {rest : List Char} (h : Executed w t es ms)
    (given : t.target.toList = u.text ++ rest) (hu : u.WellFormed) (other : u.password ≠ mask)
    (quiet : ∀ c e, Event.call c (some e) ∈ es → ¬ u.userinfo <:+: e.toList) :
    ∀ m ∈ ms, m.Discloses u ↔ ¬ Answered es ∨ Bare u ((secrets t.arguments).foldl maskValue t.input.toList) := by
  intro m mem
  rw [← Test.userinfo_infix_sanitize_iff hu other]
  cases h with
  | unknown => cases mem
  | unresolved now accepted known resolves located =>
    rw [List.mem_singleton.1 mem]
    rw [answered_append, or_iff_left (not_answered_reported _ accepted)]
    exact ⟨fun _ => .inl located.not_answered, fun _ => discloses_of_given given _ _⟩
  | visited visits known targets =>
    obtain ⟨v, visit, rfl⟩ := List.mem_map.1 mem
    rw [answered_append, or_iff_left (not_answered_visits visits)]
    have last : ∀ e, v.last? = some e → ¬ u.userinfo <:+: e.toList := by
      intro e failed
      refine quiet _ e (List.mem_append_right _ (List.mem_flatMap.2 ⟨v, visit, call_mem_events failed⟩))
    have target : v.target ∈ visits.map Visit.target := List.mem_map_of_mem visit
    generalize visits.map Visit.target = all at targets target
    cases targets with
    | asGiven =>
      have unanswered : ¬ Answered [] := by
        rintro ⟨host, found, here⟩
        cases here
      refine ⟨fun _ => .inl unanswered, fun _ => ?_⟩
      show (t.message v.target v.last? v.now).Discloses u
      rw [List.mem_singleton.1 target]
      exact discloses_of_given given _ _
    | found resolves located =>
      obtain ⟨answered, noSlash⟩ := located.answered
      rw [or_iff_right (not_not_intro answered)]
      exact discloses_iff_of_noSlash (noSlash _ target) last

/-- **When a URL password leaves the worker**: the messages of a job whose target begins with a URL password
show it exactly if no addresses were found for the target, or if the userinfo stands without a scheme in
front of it in the line with its values masked. -/
theorem published_discloses_iff {payload : Payload} {line : String} {rest : List Char}
    (text : payload.text? = some line) (job : JobLine.parse w.registry line = .ok (some t))
    (given : t.target.toList = u.text ++ rest) (hu : u.WellFormed) (other : u.password ≠ mask)
    (quiet : ∀ c e, Event.call c (some e) ∈ es → ¬ u.userinfo <:+: e.toList)
    (run : Run (w.process payload) es ()) :
    ∃ ms : List ResultMessage, es.filterMap Event.pushed? = ms.map (fun m => (w.settings.resultsQueue, m.wire)) ∧
      ∀ m ∈ ms, m.Discloses u ↔
        ¬ Answered es ∨ Bare u ((secrets t.arguments).foldl maskValue t.input.toList) := by
  obtain ⟨ms, executed⟩ := (process_run_iff text job).1 run
  exact ⟨ms, executed.pushed, executed.discloses_iff given hu other quiet⟩

/-- A worker whose one probe takes targets as they are given. -/
def rawWorker : Worker where
  registry := ⟨[{ name := "raw", resolves := false }], by simp⟩

/-- A test of that probe against a URL with a password. -/
def rawTest : Test where
  kind := "raw"
  target := "https://user:pw@host"
  input := "https://user:pw@host must run raw"
  arguments := .empty

/-- The URL password of that test. -/
def rawPassword : UrlPassword where
  scheme := "https".toList
  user := "user".toList
  password := "pw".toList

/-- The one visit of that test, whose probe passes at once. -/
def rawVisit : Visit rawWorker.settings.retry.maxAttempts where
  target := rawTest.target
  failures := []
  last? := none
  now := 0
  accepted := true
  within := by decide
  spent := by decide

theorem rawPassword_wellFormed : rawPassword.WellFormed where
  scheme := ⟨'h', "ttps".toList, rfl, rfl, List.all_eq_true.1 rfl⟩
  user := List.all_eq_true.1 rfl
  password := List.all_eq_true.1 rfl
  nonempty := by decide

/-- The published message shows the password. -/
theorem published_discloses_raw :
    ∃ ms : List ResultMessage, (rawVisit.events rawWorker rawTest).filterMap Event.pushed? =
        ms.map (fun m => (rawWorker.settings.resultsQueue, m.wire)) ∧ ∀ m ∈ ms, m.Discloses rawPassword := by
  have text : (Payload.ofText rawTest.input).text? = some rawTest.input := Payload.text?_ofText _
  have job : JobLine.parse rawWorker.registry rawTest.input = .ok (some rawTest) := by decide +kernel
  have given : rawTest.target.toList = rawPassword.text ++ "host".toList := by decide
  have known : rawWorker.registry.get? rawTest.kind = some { name := "raw", resolves := false } := rfl
  have executed : Executed rawWorker rawTest ([] ++ [rawVisit].flatMap (Visit.events rawWorker rawTest))
      ([rawVisit].map (Visit.message rawTest)) := .visited [rawVisit] known (.asGiven rfl)
  have run : Run (rawWorker.process (Payload.ofText rawTest.input)) (rawVisit.events rawWorker rawTest) () :=
    (process_run_iff text job).2 ⟨_, by simpa using executed⟩
  have quiet : ∀ c e, Event.call c (some e) ∈ rawVisit.events rawWorker rawTest →
      ¬ rawPassword.userinfo <:+: e.toList := by
    intro c e mem
    simp [Visit.events, attempted, reported, rawVisit] at mem
  have silent : ¬ Answered (rawVisit.events rawWorker rawTest) := by
    simpa using not_answered_visits (w := rawWorker) (t := rawTest) [rawVisit]
  obtain ⟨ms, pushed, shown⟩ :=
    published_discloses_iff text job given rawPassword_wellFormed (by decide) quiet run
  exact ⟨ms, pushed, fun m mem => (shown m mem).2 (.inl silent)⟩

end Worker

end Lookout
