import Lookout.Probe.Bundled
import Lookout.Proofs.JobLine.Reading
import Lookout.Proofs.JobLine.Validation
import Lookout.Proofs.Text.Meaning

/-!
# Numbers in arguments

The patterns of the bundled probes let digits pass as numbers, however many there are. A probe reads the number that
they write, or fails if it is too large for what it stands for; so no test runs with another number than its line gives.
A TCP test is refused in this way, or because its port is missing or zero, before a connection is made.
-/

namespace Lookout
set_option autoImplicit false
open Text

namespace Pattern

variable {value : String} {n : Nat}

theorem digits_accepts_iff : digits.accepts value = true ↔ ∃ n, Writes value.toList n := by
  simp only [accepts, Bool.and_eq_true, Bool.not_eq_true', List.isEmpty_eq_false_iff, List.all_eq_true]
  constructor
  · rintro ⟨nonempty, numeric⟩
    exact ⟨_, nonempty, numeric, rfl⟩
  · rintro ⟨n, digits⟩
    exact ⟨digits.nonempty, digits.numeric⟩

theorem threeDigits_accepts_iff :
    threeDigits.accepts value = true ↔ value.toList.length = 3 ∧ ∃ n, Writes value.toList n := by
  simp only [accepts, Bool.and_eq_true, beq_iff_eq, List.all_eq_true]
  refine and_congr_right fun three => ?_
  constructor
  · intro numeric
    have nonempty : value.toList ≠ [] := List.ne_nil_of_length_pos (by omega)
    exact ⟨_, nonempty, numeric, rfl⟩
  · rintro ⟨n, digits⟩
    exact digits.numeric

end Pattern

/-- How an argument is reported whose number is too large. -/
def excessText (name value : String) : String :=
  "Invalid value '" ++ value ++ "' for " ++ name ++ ": " ++ NumeralError.tooLarge.message

/-- The argument is missing, and counts as `fallback`, or it is given as digits, which are read as the number that they
write if this is at most `limit`, and not at all otherwise. -/
structure ReadsExactly (t : Test) (name : String) (limit fallback : Nat) : Prop where
  missing : t.arguments.get? name = none → numericArgument t name limit fallback = .ok fallback
  digits : ∀ value, t.arguments.get? name = some value → ∃ n, Writes value.toList n
  inRange : ∀ value n, t.arguments.get? name = some value → Writes value.toList n → n ≤ limit →
    numericArgument t name limit fallback = .ok n
  excess : ∀ value n, t.arguments.get? name = some value → Writes value.toList n → limit < n →
    numericArgument t name limit fallback = .error (excessText name value)

variable {t : Test} {name value line : String} {limit fallback n : Nat}

theorem numericArgument_of_missing (absent : t.arguments.get? name = none) :
    numericArgument t name limit fallback = .ok fallback := by
  simp [numericArgument, Test.argument?, absent]

theorem numericArgument_of_writes (given : t.arguments.get? name = some value) (digits : Writes value.toList n) :
    numericArgument t name limit fallback = if n ≤ limit then .ok n else .error (excessText name value) := by
  have filled : value ≠ "" := fun empty => digits.nonempty (by rw [empty]; rfl)
  have argument : t.argument? name = some value := by simp [Test.argument?, given, filled]
  rw [numericArgument, argument]
  dsimp only
  rw [readNat_of_digits digits.numeric digits.nonempty, digits.value]
  by_cases small : n ≤ limit
  · rw [if_pos small, if_pos small]
  · rw [if_neg small, if_neg small]
    rfl

theorem readsExactly (digits : ∀ value, t.arguments.get? name = some value → ∃ n, Writes value.toList n) :
    ReadsExactly t name limit fallback where
  missing := numericArgument_of_missing
  digits := digits
  inRange _ _ given written small := by rw [numericArgument_of_writes given written, if_pos small]
  excess _ _ given written large := by rw [numericArgument_of_writes given written, if_neg (by omega)]

namespace Probe
open JobLine

/-- Why a TCP test is refused without a connection. -/
inductive PortRefusal (t : Test) : String → Prop where
  | missing (absent : t.arguments.get? "port" = none) : PortRefusal t "A port must be specified for tcp tests"
  | zero {value : String} (given : t.arguments.get? "port" = some value) (written : Writes value.toList 0) :
      PortRefusal t "A port must be specified for tcp tests"
  | tooLarge {value : String} {n : Nat} (given : t.arguments.get? "port" = some value)
      (written : Writes value.toList n) (large : maxWord16 < n) : PortRefusal t (excessText "port" value)

variable {p : Probe} {pattern : Pattern} {network : Network} {target reason : String} {o : ExecutionOptions}

/-- The value of an argument matches the pattern that the probe of the line declares. -/
theorem accepts_of_parse (read : parse .bundled line = .ok (some t)) (kind : Registry.bundled.get? t.kind = some p)
    (declared : p.arguments.lookup name = some pattern) (given : t.arguments.get? name = some value) :
    pattern.accepts value = true := by
  obtain ⟨-, cs, -, -, -, valid⟩ := parse_eq_some_iff.1 read
  obtain ⟨admitted, lookup, accepted⟩ := validate_eq_ok_iff.1 valid p kind name value given
  obtain rfl : pattern = admitted := Option.some.inj (declared.symm.trans lookup)
  exact accepted

theorem runTcp_of_error (failed : numericArgument t "port" maxWord16 0 = .error reason) :
    runTcp network t target o = .error reason := by
  simp [runTcp, failed, bind, Except.bind]

theorem runTcp_of_zero (zero : numericArgument t "port" maxWord16 0 = .ok 0) :
    runTcp network t target o = .error "A port must be specified for tcp tests" := by
  simp [runTcp, zero, bind, Except.bind]

theorem runTcp_of_port (port : numericArgument t "port" maxWord16 0 = .ok n) (positive : 0 < n) :
    runTcp network t target o = (connect network target n o.timeout).map fun _ => () := by
  have other : n ≠ 0 := by omega
  simp only [runTcp, port, bind, Except.bind, if_neg other, pure, Except.pure]
  cases connect network target n o.timeout <;> rfl

/-- A network on which every connection is accepted. -/
def accepting : Network where
  dial _ _ := .answered (.answered [])
  send _ := .timedOut

/-- A TCP test fails whatever the network answers just if its port is missing, zero, or too large. -/
theorem runTcp_refused_iff (reads : ReadsExactly t "port" maxWord16 0) :
    (∀ network, runTcp network t target o = .error reason) ↔ PortRefusal t reason := by
  constructor
  · intro refused
    have made := refused accepting
    cases given : t.arguments.get? "port" with
    | none =>
      rw [runTcp_of_zero (reads.missing given)] at made
      obtain rfl := Except.error.inj made
      exact .missing given
    | some value =>
      obtain ⟨n, written⟩ := reads.digits value given
      rcases Nat.lt_or_ge maxWord16 n with large | small
      · rw [runTcp_of_error (reads.excess value n given written large)] at made
        obtain rfl := Except.error.inj made
        exact .tooLarge given written large
      · have port := reads.inRange value n given written small
        rcases Nat.eq_zero_or_pos n with rfl | positive
        · rw [runTcp_of_zero port] at made
          obtain rfl := Except.error.inj made
          exact .zero given written
        · -- there is a network on which the connection is made
          rw [runTcp_of_port port positive] at made
          cases made
  · intro refusal network
    cases refusal with
    | missing absent => exact runTcp_of_zero (reads.missing absent)
    | zero given written => exact runTcp_of_zero (reads.inRange _ 0 given written (Nat.zero_le _))
    | tooLarge given written large => exact runTcp_of_error (reads.excess _ _ given written large)

/-- An argument that is declared as digits is read exactly, whatever the limit. -/
theorem readsExactly_of_parse (read : parse .bundled line = .ok (some t)) (kind : Registry.bundled.get? t.kind = some p)
    (declared : p.arguments.lookup name = some .digits) : ReadsExactly t name limit fallback :=
  readsExactly fun _ given => Pattern.digits_accepts_iff.1 (accepts_of_parse read kind declared given)

/-- Three digits are always read. -/
theorem status_of_parse (read : parse .bundled line = .ok (some t)) (kind : Registry.bundled.get? t.kind = some p)
    (declared : p.arguments.lookup name = some .threeDigits) (wide : 999 ≤ limit) (usual : fallback ≤ 999) :
    ReadsExactly t name limit fallback ∧ ∃ n ≤ 999, numericArgument t name limit fallback = .ok n := by
  have three : ∀ value, t.arguments.get? name = some value → ∃ n, Writes value.toList n ∧ n ≤ 999 := by
    intro value given
    obtain ⟨length, n, written⟩ := Pattern.threeDigits_accepts_iff.1 (accepts_of_parse read kind declared given)
    have below := written.lt
    rw [length] at below
    exact ⟨n, written, by omega⟩
  have reads : ReadsExactly t name limit fallback := readsExactly fun value given =>
    let ⟨n, written, _⟩ := three value given
    ⟨n, written⟩
  refine ⟨reads, ?_⟩
  cases given : t.arguments.get? name with
  | none => exact ⟨fallback, usual, reads.missing given⟩
  | some value =>
    obtain ⟨n, written, small⟩ := three value given
    exact ⟨n, small, reads.inRange value n given written (by omega)⟩

/-- **Numbers are read exactly or not at all.** In a test of a line that the bundled probes accept, the status of a
page is always read, and a port and the least number of endpoints are read unless they are too large. A TCP test is
refused just if its port is missing, zero, or too large, and otherwise it connects to this very port. -/
theorem numbers_exact (read : parse .bundled line = .ok (some t)) :
    (t.kind = http.name ∨ t.kind = https.name →
      ReadsExactly t "status" maxWord16 200 ∧ ∃ n ≤ 999, numericArgument t "status" maxWord16 200 = .ok n) ∧
    (t.kind = ssh.name → ReadsExactly t "port" maxWord16 22) ∧
    (t.kind = endpoints.name → ReadsExactly t "min-endpoints" maxWord64 1) ∧
    (t.kind = tcp.name → ReadsExactly t "port" maxWord16 0 ∧ ∀ target o,
      (∀ reason, (∀ network, runTcp network t target o = .error reason) ↔ PortRefusal t reason) ∧
      ∀ value n, t.arguments.get? "port" = some value → Writes value.toList n → 0 < n → n ≤ maxWord16 →
        ∀ network, runTcp network t target o = (connect network target n o.timeout).map fun _ => ()) := by
  refine ⟨?status, fun kind => ?ssh, fun kind => ?endpoints, fun kind => ?tcp⟩
  case status =>
    rintro (kind | kind)
    · have registered : Registry.bundled.get? t.kind = some http := by rw [kind]; rfl
      exact status_of_parse read registered rfl (by decide) (by decide)
    · have registered : Registry.bundled.get? t.kind = some https := by rw [kind]; rfl
      exact status_of_parse read registered rfl (by decide) (by decide)
  case ssh =>
    have registered : Registry.bundled.get? t.kind = some ssh := by rw [kind]; rfl
    exact readsExactly_of_parse read registered rfl
  case endpoints =>
    have registered : Registry.bundled.get? t.kind = some endpoints := by rw [kind]; rfl
    exact readsExactly_of_parse read registered rfl
  case tcp =>
    have registered : Registry.bundled.get? t.kind = some tcp := by rw [kind]; rfl
    have reads : ReadsExactly t "port" maxWord16 0 := readsExactly_of_parse read registered rfl
    refine ⟨reads, fun target o => ⟨fun reason => runTcp_refused_iff reads, ?_⟩⟩
    intro value n given written positive small network
    exact runTcp_of_port (reads.inRange value n given written small) positive

/-- A TCP test whose port is 22 more than there are ports. -/
def widePortTest : Test where
  kind := "tcp"
  target := "db"
  input := "db must run tcp with port 0065558"
  arguments := .ofList [("port", "0065558")]

/-- No connection is made to port 22. -/
theorem wide_port_refused :
    parse .bundled widePortTest.input = .ok (some widePortTest) ∧ ∀ network target o,
      runTcp network widePortTest target o =
        .error "Invalid value '0065558' for port: number too large to fit in target type" := by
  have read : parse .bundled widePortTest.input = .ok (some widePortTest) := by decide +kernel
  obtain ⟨-, -, -, tcpTest⟩ := numbers_exact read
  obtain ⟨-, runs⟩ := tcpTest rfl
  have given : widePortTest.arguments.get? "port" = some "0065558" := by decide +kernel
  have written : Writes "0065558".toList 65558 := by decide +kernel
  refine ⟨read, fun network target o => ?_⟩
  exact ((runs target o).1 _).2 (.tooLarge given written (by decide)) network

end Probe

end Lookout
