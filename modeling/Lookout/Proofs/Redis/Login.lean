import Lookout.Redis.Connection
import Lookout.Proofs.Url.Alone
import Lookout.Proofs.Url.Paths

/-!
# Logging in to Redis

The URL of a server names its host and port, and its path is the number of the database. The password in it is read back
as it was set, unless there is an escape in it: the percent sign is not encoded, so that the client decodes what was not
meant to be decoded.
-/

namespace Lookout.Redis
set_option autoImplicit false
open Text Url DomainName

/-- A text that is a host by itself: a name, of which a URL writes characters outside ASCII percent encoded, or an IPv6
address in brackets. -/
inductive ServerHost : List Char → Host → Prop
  | name {s : List Char} (nonempty : s ≠ []) (allowed : ∀ c ∈ s, Host.isForbidden c = false) :
      ServerHost s (.name (percentEncode controlSet s))
  | bracketed {s : List Char} {groups : Vector UInt16 8} (read : Address.readV6 s = some groups) :
      ServerHost ('[' :: s ++ [']']) (.address (.v6 groups))

/-- What may follow a host: nothing, or a colon and the number of a port. -/
inductive ServerPort : List Char → Option Nat → Prop
  | unnamed : ServerPort [] none
  | number {ds : List Char} (nonempty : ds ≠ []) (numeric : ∀ c ∈ ds, c.isDigit = true)
      (small : Nat.ofDigitChars 10 ds 0 ≤ maxWord16) : ServerPort (':' :: ds) (some (Nat.ofDigitChars 10 ds 0))

variable {name port s : List Char} {host : Host} {number : Option Nat} {o : Options}

/-! ### Characters -/

/-- A character that counts, neither ends the authority nor is in front of a user. -/
def AuthorityChar (c : Char) : Prop :=
  c ∉ ['/', '\\', '?', '#', '@', '\t', '\n', '\r']

instance : DecidablePred AuthorityChar :=
  inferInstanceAs (DecidablePred fun c => c ∉ ['/', '\\', '?', '#', '@', '\t', '\n', '\r'])

theorem AuthorityChar.ne {c d : Char} (counts : AuthorityChar c)
    (other : d ∈ ['/', '\\', '?', '#', '@', '\t', '\n', '\r']) : c ≠ d := by
  rintro rfl
  exact counts other

theorem authorityChar_of_allowed {c : Char} (allowed : Host.isForbidden c = false) :
    AuthorityChar c ∧ c ≠ ':' ∧ c ≠ '[' := by
  have forbidden : ∀ d ∈ "\x00\t\n\r #/:<>?@[\\]^|".toList, c ≠ d := by
    rintro d mem rfl
    rw [Host.isForbidden, List.contains_eq_mem, decide_eq_false_iff_not] at allowed
    exact allowed mem
  have within : ∀ d ∈ ['/', '\\', '?', '#', '@', '\t', '\n', '\r'], d ∈ "\x00\t\n\r #/:<>?@[\\]^|".toList :=
    (by decide : ['/', '\\', '?', '#', '@', '\t', '\n', '\r'] ⊆ "\x00\t\n\r #/:<>?@[\\]^|".toList)
  exact ⟨fun mem => forbidden c (within c mem) rfl, forbidden _ (by decide), forbidden _ (by decide)⟩

theorem authorityChar_of_literalChar {c : Char} (literal : Address.LiteralChar c) : AuthorityChar c := by
  obtain ⟨visible, other⟩ := (hostChar_of_literalChar literal).1
  intro mem
  have either : ∀ d ∈ ['/', '\\', '?', '#', '@', '\t', '\n', '\r'],
      d ∈ ['/', '\\', '?', '#', '@'] ∨ d.toNat ≤ 0x20 :=
    List.all_iff_forall_prop.1 rfl
  rcases either c mem with ends | low
  · exact other ends
  · omega

theorem authorityChar_of_digit {c : Char} (numeric : c.isDigit = true) : AuthorityChar c :=
  authorityChar_of_literalChar (Address.literalChar_of_isDigit numeric)

theorem ServerHost.chars (server : ServerHost name host) : ∀ c ∈ name, AuthorityChar c := by
  cases server with
  | name nonempty allowed => exact fun c mem => (authorityChar_of_allowed (allowed c mem)).1
  | bracketed read =>
    intro c mem
    simp only [List.cons_append, List.mem_cons, List.mem_append, List.not_mem_nil, or_false] at mem
    rcases mem with rfl | inside | rfl
    · decide
    · exact authorityChar_of_literalChar ((Address.readV6_chars read).1 c inside)
    · decide

theorem ServerPort.chars (onPort : ServerPort port number) : ∀ c ∈ port, AuthorityChar c := by
  cases onPort with
  | unnamed => simp
  | number nonempty numeric small =>
    exact List.forall_mem_cons.2 ⟨by decide, fun c mem => authorityChar_of_digit (numeric c mem)⟩

/-! ### Host and port -/

theorem ServerPort.split (onPort : ServerPort port number) : splitHost false port = ([], port) := by
  cases onPort with
  | unnamed => rfl
  | number nonempty numeric small => rfl

/-- The host goes up to the port. -/
theorem ServerHost.split (server : ServerHost name host) (onPort : ServerPort port number) :
    splitHost false (name ++ port) = (name, port) := by
  cases server with
  | name nonempty allowed =>
    have noColon : ':' ∉ name := fun mem => (authorityChar_of_allowed (allowed _ mem)).2.1 rfl
    have noBracket : '[' ∉ name := fun mem => (authorityChar_of_allowed (allowed _ mem)).2.2 rfl
    rw [splitHost_append noColon noBracket, onPort.split, List.append_nil]
  | @bracketed s _ read =>
    have noBracket : ']' ∉ s := fun mem => (hostChar_of_literalChar ((Address.readV6_chars read).1 _ mem)).2.2 rfl
    rw [List.append_assoc, List.singleton_append, splitHost_bracketed_append noBracket, onPort.split]

theorem ServerHost.read (server : ServerHost name host) : Host.ofOpaque name = .ok host := by
  cases server with
  | name nonempty allowed =>
    have clean : name.any Host.isForbidden = false := by simpa using allowed
    unfold Host.ofOpaque
    split
    · next r => exact absurd rfl (authorityChar_of_allowed (allowed '[' (by simp))).2.2
    · rw [clean]
      rfl
  | bracketed read => simp [Host.ofOpaque, Host.readBracketed, read]

theorem ServerHost.not_empty (server : ServerHost name host) : host.isEmpty = false := by
  cases server with
  | name nonempty allowed => simpa [Host.isEmpty] using percentEncode_ne_nil nonempty
  | bracketed read => rfl

theorem ServerPort.read (onPort : ServerPort port number) :
    readPort none ((port.drop 1).takeWhile (· != '\\')) = .ok number := by
  cases onPort with
  | unnamed => rfl
  | @number ds nonempty numeric small =>
    have whole : ds.takeWhile (· != '\\') = ds := by
      rw [List.takeWhile_eq_self_iff]
      exact fun c mem => bne_iff_ne.2 ((authorityChar_of_digit (numeric c mem)).ne (by decide))
    have digits : readDigits maxWord16 .tooLarge 0 ds = .ok (Nat.ofDigitChars 10 ds 0) := by
      rw [readDigits_eq numeric (Nat.zero_le maxWord16), if_pos small]
    obtain ⟨c, r, rfl⟩ := List.exists_cons_of_ne_nil nonempty
    have magnitude : readMagnitude maxWord16 .tooLarge (c :: r) = _ := digits
    rw [List.drop_one, List.tail_cons, whole, readPort, magnitude]
    rfl

/-! ### The URL -/

/-- The scheme of the URL of a server. -/
def scheme : List Char := "redis".toList

theorem readAuthority_server (server : ServerHost name host) (onPort : ServerPort port number) :
    readAuthority scheme true (name ++ port) = .ok (⟨[], [], host, number⟩, []) := by
  have chars : ∀ c ∈ name ++ port, AuthorityChar c := List.forall_mem_append.2 ⟨server.chars, onPort.chars⟩
  have noAt : '@' ∉ name ++ port := fun mem => (chars '@' mem).ne (by decide) rfl
  have nothing : port.dropWhile (· != '\\') = [] := by
    rw [List.dropWhile_eq_nil_iff]
    exact fun c mem => bne_iff_ne.2 ((onPort.chars c mem).ne (by decide))
  have plain : isSpecial scheme = false := rfl
  have implied : Url.defaultPort scheme = none := rfl
  have digits := onPort.read
  rw [List.drop_one] at digits
  rw [readAuthority_of_noAt noAt (server.split onPort), plain, implied]
  simp [server.read, server.not_empty, digits, nothing, bind, Except.bind, pure, Except.pure]

/-- A character of a decimal means nothing in a path but itself. -/
theorem numeral_char {c : Char} (numeral : c.isDigit = true ∨ c = '-') :
    0x20 < c.toNat ∧ c ∉ ['/', '.', '%', '?', '#'] ∧ staysPlain pathSet c = true := by
  have small : isAscii c = true := by
    rcases numeral with numeric | rfl
    · exact isAscii_of_isAlphanum (by simp [Char.isAlphanum, numeric])
    · rfl
  have all : (c.isDigit = true ∨ c = '-') →
      0x20 < c.toNat ∧ c ∉ ['/', '.', '%', '?', '#'] ∧ staysPlain pathSet c = true :=
    ascii_induction
      (motive := fun c => (c.isDigit = true ∨ c = '-') →
        0x20 < c.toNat ∧ c ∉ ['/', '.', '%', '?', '#'] ∧ staysPlain pathSet c = true)
      (by decide +kernel) small
  exact all numeral

section
variable (numeral : ∀ c ∈ s, c.isDigit = true ∨ c = '-')
include numeral

theorem numeral_not_mem {c : Char} (other : c ∈ ['/', '.', '%', '?', '#']) : c ∉ s :=
  fun mem => (numeral_char (numeral c mem)).2.1 other

/-- A number in the path of a URL is one segment, which is written as it is. -/
theorem readPath_number : readPath false ('/' :: s) = '/' :: s := by
  have whole : splitSegments false s = [s] := by
    refine splitSegments_eq_singleton fun c mem => ?_
    have other : c ≠ '/' := by
      rintro rfl
      exact numeral_not_mem numeral (by decide) mem
    simp [isSlash, other]
  have spelled : ¬ HasEscape s := by
    rintro ⟨a, b, -, -, occurs⟩
    exact numeral_not_mem numeral (c := '%') (by decide) (occurs.subset (by simp))
  have undotted : '.' ∉ s := numeral_not_mem numeral (by decide)
  have ordinary : Ordinary s := by
    rw [ordinary_iff spelled]
    constructor
    · rintro rfl
      exact undotted (by simp)
    · rintro rfl
      exact undotted (by simp)
  have stays : percentEncode pathSet s = s := percentEncode_eq_self fun c mem => (numeral_char (numeral c mem)).2.2
  have resolved : resolveSegments [] [s] = [s] := by
    rw [resolveSegments_ordinary (by simpa using ordinary), List.map_singleton, stays]
    rfl
  rw [readPath]
  simp [isSlash, whole, resolved]

theorem assemble_number (authority : Authority) : assemble scheme (some authority) ('/' :: s) =
    { scheme, authority := some authority, path := '/' :: s, query := none, fragment := none } := by
  have within : ∀ c ∈ '/' :: s, (!endsPath c) = true := by
    refine List.forall_mem_cons.2 ⟨rfl, fun c mem => ?_⟩
    have noQuery : c ≠ '?' := by
      rintro rfl
      exact numeral_not_mem numeral (by decide) mem
    have noFragment : c ≠ '#' := by
      rintro rfl
      exact numeral_not_mem numeral (by decide) mem
    simp [endsPath, noQuery, noFragment]
  have plain : isSpecial scheme = false := rfl
  rw [assemble, List.takeWhile_eq_self_iff.2 within, List.dropWhile_eq_nil_iff.2 within, plain, readPath_number numeral]
  rfl

/-- **What the text of a server is read as.** -/
theorem ofChars_server (server : ServerHost name host) (onPort : ServerPort port number) :
    ofChars (scheme ++ ':' :: '/' :: '/' :: (name ++ port ++ '/' :: s)) =
      .ok { scheme, authority := some ⟨[], [], host, number⟩, path := '/' :: s, query := none, fragment := none } := by
  have chars : ∀ c ∈ name ++ port, AuthorityChar c := List.forall_mem_append.2 ⟨server.chars, onPort.chars⟩
  have counted : cleaned (scheme ++ ':' :: '/' :: '/' :: (name ++ port ++ '/' :: s)) =
      scheme ++ ':' :: '/' :: '/' :: (name ++ port ++ '/' :: s) := by
    have cut := cleaned_append_cons (by decide : 0x20 < '/'.toNat) (scheme ++ ':' :: '/' :: '/' :: (name ++ port)) s
    have kept : ∀ c ∈ "edis://".toList ++ (name ++ port), isKept c = true := by
      refine List.forall_mem_append.2 ⟨List.all_iff_forall_prop.1 rfl, fun c mem => ?_⟩
      have other := chars c mem
      simp [isKept, other.ne]
    have start : cleanedStart (scheme ++ ':' :: '/' :: '/' :: (name ++ port)) =
        scheme ++ ':' :: '/' :: '/' :: (name ++ port) :=
      cleanedStart_cons (c := 'r') (by decide) kept
    rw [start, cleanedEnd_eq_self fun c mem => (numeral_char (numeral c mem)).1] at cut
    simpa using cut
  have known : readScheme? (scheme ++ ':' :: '/' :: '/' :: (name ++ port ++ '/' :: s)) =
      some (scheme, '/' :: '/' :: (name ++ port ++ '/' :: s)) := rfl
  have plain : isSpecial scheme = false := rfl
  have noFile : isFile scheme = false := rfl
  have within : ∀ c ∈ name ++ port, (!endsAuthority false c) = true := by
    intro c mem
    have other := chars c mem
    simp [endsAuthority, isSlash, other.ne]
  have stop : (!endsAuthority false '/') = false := rfl
  rw [ofChars, counted, known]
  simp only [plain, noFile, Bool.false_eq_true, if_false]
  rw [readAfterSlashes]
  simp only [plain]
  rw [takeWhile_append_cons within stop, dropWhile_append_cons within stop]
  simp only [List.isEmpty_cons, Bool.not_false, readAuthority_server server onPort, Except.map, List.nil_append]
  rw [assemble_number numeral]

end

/-! ### The password -/

/-- A password is read back as it was set unless it has an escape. -/
theorem credentialOf_eq_iff {what password : String} (filled : password ≠ "") :
    credentialOf what (percentEncode userinfoSet password.toList) = .ok (some password) ↔
      ¬ HasEscape password.toList := by
  have nonempty : percentEncode userinfoSet password.toList ≠ [] :=
    percentEncode_ne_nil fun empty => filled (String.toList_inj.1 empty)
  have read : credentialOf what (percentEncode userinfoSet password.toList) = .ok (some password) ↔
      Payload.text? (percentDecode password.toList) = some password := by
    rw [credentialOf, if_neg (by simpa using nonempty), percentDecode_percentEncode spares_userinfoSet]
    cases Payload.text? (percentDecode password.toList) with
    | none => simp
    | some t => simp
  rw [read, Payload.text?_eq_some_iff, Payload.ofText_eq_flatMap, percentDecode_eq_iff]

/-- **Which passwords arrive as configured**: those without escapes. In either case the URL has the host, the port and
the database that were given. -/
theorem password_arrives_iff {o : Options} {password : String} {name port : List Char} {host : Host}
    {number : Option Nat} (server : ServerHost name host) (onPort : ServerPort port number)
    (written : o.host.toList = name ++ port) (given : o.password = some password) (filled : password ≠ "") :
    ∃ url authority, o.url = .ok url ∧ url.authority = some authority ∧ authority.host = host ∧
      authority.port = number ∧ url.path = '/' :: (toString o.db).toList ∧
      (credentialOf "Password" authority.password = .ok (some password) ↔ ¬ HasEscape password.toList) := by
  have numeral : ∀ c ∈ (toString o.db).toList, c.isDigit = true ∨ c = '-' :=
    fun c mem => digit_or_sign_of_mem_toString mem
  have text : ("redis://" ++ o.host ++ "/" ++ toString o.db).toList =
      scheme ++ ':' :: '/' :: '/' :: (name ++ port ++ '/' :: (toString o.db).toList) := by
    simp [written, scheme]
  have chosen : o.password.filter (· != "") = some password := by simp [given, filled]
  have noFile : isFile scheme = false := rfl
  refine ⟨{ scheme, authority := some ⟨[], percentEncode userinfoSet password.toList, host, number⟩,
            path := '/' :: (toString o.db).toList, query := none, fragment := none },
    _, ?_, rfl, rfl, rfl, rfl, credentialOf_eq_iff filled⟩
  rw [Options.url, ofText, text, ofChars_server numeral server onPort]
  simp only [chosen]
  rw [withPassword?]
  simp only [server.not_empty, noFile]
  rfl

/-- A server with a password that has delimiters, a percent sign and a letter outside ASCII. -/
def guarded : Options where
  host := "redis.internal:6380"
  db := -3
  password := some "100%, p@ss:wörd/"

theorem guarded_password_arrives :
    (guarded.host.toList = "redis.internal".toList ++ ":6380".toList ∧ "100%, p@ss:wörd/" ≠ "") ∧
      ∃ url authority, guarded.url = .ok url ∧ url.authority = some authority ∧
        authority.host = .name "redis.internal".toList ∧ authority.port = some 6380 ∧ url.path = "/-3".toList ∧
        credentialOf "Password" authority.password = .ok (some "100%, p@ss:wörd/") := by
  have server : ServerHost "redis.internal".toList (.name "redis.internal".toList) :=
    .name (by decide) (List.all_iff_forall_prop.1 rfl)
  have onPort : ServerPort ":6380".toList (some 6380) :=
    .number (by decide) (List.all_iff_forall_prop.1 rfl) (by decide)
  have written : guarded.host.toList = "redis.internal".toList ++ ":6380".toList := by decide
  have filled : "100%, p@ss:wörd/" ≠ "" := by decide
  have spelled : ¬ HasEscape "100%, p@ss:wörd/".toList := percentDecode_eq_iff.1 (by decide +kernel)
  obtain ⟨url, authority, read, parts, host, port, path, arrives⟩ :=
    password_arrives_iff server onPort written (rfl : guarded.password = some "100%, p@ss:wörd/") filled
  exact ⟨⟨written, filled⟩, url, authority, read, parts, host, port, path, arrives.2 spelled⟩

/-- A password that the client decodes to another one. -/
theorem escape_in_password_decoded :
    ∃ url, Options.url { password := some "a%41" } = .ok url ∧ url.text = "redis://:a%41@localhost:6379/0" ∧
      loginOf url =
        .ok { host := "localhost", port := 6379, db := 0, username := none, password := some "aA" } := by
  refine ⟨{ scheme, authority := some ⟨[], "a%41".toList, .name "localhost".toList, some 6379⟩, path := "/0".toList,
            query := none, fragment := none }, ?_, ?_, ?_⟩
  · decide +kernel
  · decide +kernel
  · decide +kernel

end Lookout.Redis
