import Lookout.Probe.Http
import Lookout.Proofs.Url.Alone
import Mathlib

/-!
# Hosts without a scheme

A target that is no URI is looked up as it is, and the HTTP probe reads it as the host of a URL. Both mean the same host
just if it is the name of a domain, an IPv4 address, or an IPv6 address in brackets. An IPv6 address without them, which
the lookup answers, is no host of a URL.
-/

namespace Lookout
set_option autoImplicit false
open Text DomainName

/-- The text names this host, up to the case of letters and the brackets around an IPv6 address. -/
inductive Url.Host.WrittenAs : Url.Host → List Char → Prop
  | name (s : List Char) : WrittenAs (.name (s.map Char.toLower)) s
  | address {s : List Char} {a : Address} (read : Address.ofChars? s = some a) : WrittenAs (.address a) s
  | bracketed {s : List Char} {groups : Vector UInt16 8} (read : Address.readV6 s = some groups) :
      WrittenAs (.address (.v6 groups)) ('[' :: s ++ [']'])

namespace Probe
open Url

/-- A target that stands for the host of a URL as it is. -/
inductive Bare : List Char → Prop
  | name {s : List Char} (nonempty : s ≠ []) (plain : Plain s) (fit : LabelsFit (s.map Char.toLower))
      (word : Host.endsInNumber (s.map Char.toLower) = false) : Bare s
  | v4 (octets : Vector UInt8 4) : Bare (Address.textV4 octets)
  | bracketed {s : List Char} {groups : Vector UInt16 8} (read : Address.readV6 s = some groups) :
      Bare ('[' :: s ++ [']'])

variable {t : Test} {url : Url} {host : Host}

/-! ### The URL of a bare target -/

theorem isWeb_of_kind (kind : t.kind = "http" ∨ t.kind = "https") : IsWeb t.kind.toList := by
  rcases kind with e | e
  · exact .inl (by rw [e])
  · exact .inr (by rw [e])

theorem toList_requestText (kind : t.kind = "http" ∨ t.kind = "https") (bare : isUri t.target = false) :
    (requestText t).toList = t.kind.toList ++ ':' :: '/' :: '/' :: (t.target.toList ++ ['/']) := by
  have implied : impliedScheme t.kind = t.kind := by
    rcases kind with e | e
    · rw [e]
      rfl
    · rw [e]
      rfl
  simp [requestText, bare, implied]

/-- A test asks for a URL of the web. -/
theorem requestUrl_eq_ok_iff : requestUrl t = .ok url ↔ ofText (requestText t) = .ok url ∧ IsWeb url.scheme := by
  have web : ∀ u : Url, (String.ofList u.scheme = "http" || String.ofList u.scheme = "https") = true ↔
      IsWeb u.scheme := by
    intro u
    simp only [IsWeb, Bool.or_eq_true, decide_eq_true_eq, ← String.toList_inj, String.toList_ofList]
  unfold requestUrl
  cases ofText (requestText t) with
  | error e => simp
  | ok found =>
    simp only [Except.ok.injEq]
    split
    · next known =>
      constructor
      · intro same
        obtain rfl := Except.ok.inj same
        exact ⟨rfl, (web _).1 known⟩
      · rintro ⟨rfl, -⟩
        rfl
    · next unknown =>
      refine iff_of_false (by simp) ?_
      rintro ⟨rfl, known⟩
      exact unknown ((web _).2 known)

theorem requestUrl_of_error {e : UrlError} (failed : ofText (requestText t) = .error e) :
    ∃ reason, requestUrl t = .error reason := by
  refine ⟨"Invalid URL " ++ requestText t ++ ": " ++ e.message, ?_⟩
  rw [requestUrl, failed]

/-- A bare target is read as the host that it is written as. -/
theorem Bare.exists_host {s : List Char} (bare : Bare s) :
    Alone s ∧ ∃ host, Host.ofDomain s = .ok host ∧ host.isEmpty = false ∧ host.WrittenAs s := by
  cases bare with
  | name nonempty plain fit word =>
    have read := (Host.ofDomain_eq_name_iff plain).2 ⟨nonempty, fit, word, rfl⟩
    exact ⟨alone_of_plain nonempty plain, _, read, by simpa [Host.isEmpty] using nonempty, .name s⟩
  | v4 octets =>
    refine ⟨alone_of_plain (Host.textV4_ne_nil octets) (Host.plain_textV4 octets), ?_⟩
    refine ⟨_, Host.ofDomain_textV4 octets, rfl, .address ?_⟩
    rw [Address.ofChars?, Address.readV4_textV4]
  | bracketed read =>
    exact ⟨alone_bracketed (Address.readV6_chars read).1, _, Host.ofDomain_bracketed read, rfl, .bracketed read⟩

/-- A name as hosts have it: labels of letters, digits, hyphens and underscores, of which none is marked as Punycode
and the last begins with a letter. -/
structure HostName (s : List Char) : Prop where
  chars : ∀ c ∈ s, c.isAlphanum = true ∨ c ∈ ['-', '_', '.']
  unmarked : ∀ label ∈ splitAt '.' s, ¬ punycodeMark <+: label.map Char.toLower
  top : ∃ c r, (Host.nameParts s).getLast? = some (c :: r) ∧ c.isAlpha = true

/-- Names of hosts are bare targets. -/
theorem HostName.bare {s : List Char} (h : HostName s) : Bare s := by
  obtain ⟨top, rest, last, letter⟩ := h.top
  have plain : Plain s := by
    intro c mem
    have small : isAscii c = true := by
      rcases h.chars c mem with word | other
      · exact isAscii_of_isAlphanum word
      · exact List.all_eq_true.1 (rfl : ['-', '_', '.'].all isAscii = true) c other
    have all : (c.isAlphanum = true ∨ c ∈ ['-', '_', '.']) → DomainName.isForbidden c = false :=
      ascii_induction
        (motive := fun c => (c.isAlphanum = true ∨ c ∈ ['-', '_', '.']) → DomainName.isForbidden c = false)
        (by decide +kernel) small
    exact ⟨small, all (h.chars c mem)⟩
  have lower := plain_map_toLower_iff.2 plain
  refine .name ?_ plain (labelsFit_of_unmarked (fun c mem => (lower c mem).1) ?_) ?_
  · rintro rfl
    cases last
  · intro label mem
    rw [splitAt_map toLower_eq_stop_iff] at mem
    obtain ⟨label, within, rfl⟩ := List.mem_map.1 mem
    exact h.unmarked label within
  · have lowered : (Host.nameParts (s.map Char.toLower)).getLast? = some (top.toLower :: rest.map Char.toLower) := by
      rw [Host.nameParts_toLower, List.getLast?_map, last]
      rfl
    exact Host.endsInNumber_of_letter lowered (by rwa [Char.isAlpha_toLower_eq_isAlpha])

/-! ### The URL and the lookup -/

section
variable (kind : t.kind = "http" ∨ t.kind = "https") (bare : isUri t.target = false)
include kind bare

/-- The URL has the host that the target is read as. -/
theorem ofText_requestText (alone : Alone t.target.toList) : ofText (requestText t) =
    (Host.ofDomain t.target.toList).map fun host => assemble t.kind.toList (some ⟨[], [], host, none⟩) ['/'] := by
  rw [ofText, toList_requestText kind bare, ofChars_host (isWeb_of_kind kind) alone]

theorem requestUrl_of_ofDomain (alone : Alone t.target.toList) (read : Host.ofDomain t.target.toList = .ok host) :
    requestUrl t = .ok (assemble t.kind.toList (some ⟨[], [], host, none⟩) ['/']) := by
  rw [requestUrl_eq_ok_iff, ofText_requestText kind bare alone, read]
  exact ⟨rfl, isWeb_of_kind kind⟩

/-- A name that the URL has as its host is a bare target. -/
theorem bare_of_requestUrl (asked : requestUrl t = .ok url)
    (named : url.host? = some (.name (t.target.toList.map Char.toLower))) : Bare t.target.toList := by
  obtain ⟨read, web⟩ := requestUrl_eq_ok_iff.1 asked
  have plain : Plain t.target.toList := plain_map_toLower_iff.1 (plain_of_ofChars read web named)
  have nonempty : t.target.toList ≠ [] := by
    intro empty
    have visible := (Option.filter_eq_some_iff.1 named).2
    simp [Host.isEmpty, empty] at visible
  rw [ofText_requestText kind bare (alone_of_plain nonempty plain)] at read
  obtain ⟨host, domain, rfl⟩ := map_eq_ok_iff.1 read
  obtain rfl : host = .name (t.target.toList.map Char.toLower) :=
    Option.some.inj (Option.filter_eq_some_iff.1 named).1
  obtain ⟨-, fit, word, -⟩ := (Host.ofDomain_eq_name_iff plain).1 domain
  exact .name nonempty plain fit word

/-- An IPv6 address without brackets is no host of a URL. -/
theorem requestUrl_of_readV6 {groups : Vector UInt16 8} (read : Address.readV6 t.target.toList = some groups) :
    ∃ reason, requestUrl t = .error reason := by
  obtain ⟨literal, a, b, split, noColon, more⟩ := Address.readV6_chars read
  rw [split] at literal
  have chars : ∀ c ∈ a ++ ':' :: b, HostChar c := fun c mem => (hostChar_of_literalChar (literal c mem)).1
  have noBracket : '[' ∉ a := fun mem => (hostChar_of_literalChar (literal '[' (by simp [mem]))).2.1 rfl
  obtain ⟨e, failed⟩ := ofChars_colons (isWeb_of_kind kind) chars noColon noBracket more
  apply requestUrl_of_error
  rw [ofText, toList_requestText kind bare, split, failed]

end

/-- **Which bare hosts mean the same** to the lookup and to the HTTP probe: names that are their own ASCII form, IPv4
addresses, and IPv6 addresses in brackets. For an IPv6 address without brackets, which is looked up as that address,
there is no URL. -/
theorem bare_host_asked_iff {t : Test} (kind : t.kind = "http" ∨ t.kind = "https") (bare : isUri t.target = false) :
    ((∃ url host s, requestUrl t = .ok url ∧ String.ofList url.scheme = t.kind ∧ url.host? = some host ∧
        hostOf t.target = .ok s ∧ host.WrittenAs s.toList) ↔ Bare t.target.toList) ∧
      ∀ groups, Address.readV6 t.target.toList = some groups →
        (∃ a, literalLookup t.target = some [a]) ∧ ∃ reason, requestUrl t = .error reason := by
  refine ⟨⟨?_, ?_⟩, ?_⟩
  · rintro ⟨url, host, s, asked, -, named, looked, written⟩
    obtain rfl : t.target = s := by simpa [hostOf, bare] using looked
    generalize text : t.target.toList = s at written
    cases written with
    | name s =>
      subst text
      exact bare_of_requestUrl kind bare asked named
    | @address s a read =>
      cases v4 : Address.readV4 s with
      | some octets =>
        rw [Address.readV4_eq_some_iff.1 v4]
        exact .v4 octets
      | none =>
        rw [Address.ofChars?, v4] at read
        obtain ⟨groups, v6, -⟩ := Option.map_eq_some_iff.1 read
        obtain ⟨reason, refused⟩ := requestUrl_of_readV6 kind bare (text ▸ v6)
        rw [refused] at asked
        cases asked
    | bracketed read => exact .bracketed read
  · intro h
    obtain ⟨alone, host, read, visible, written⟩ := h.exists_host
    refine ⟨_, host, t.target, requestUrl_of_ofDomain kind bare alone read, ?_, ?_, ?_, written⟩
    · exact String.ofList_toList
    · exact Option.filter_eq_some_iff.2 ⟨rfl, by simp [visible]⟩
    · simp [hostOf, bare]
  · intro groups read
    refine ⟨⟨.v6 groups, ?_⟩, requestUrl_of_readV6 kind bare read⟩
    have colon : ':' ∈ t.target.toList := by
      obtain ⟨a, b, split, -⟩ := (Address.readV6_chars read).2
      simp [split]
    rw [literalLookup, Address.ofText?, Address.ofChars?, Address.readV4_of_colon colon, read]
    rfl

theorem hostName_example : HostName "Example.com".toList where
  chars := List.all_iff_forall_prop.1 rfl
  unmarked := by decide +kernel
  top := ⟨'c', "om".toList, rfl, rfl⟩

/-- A test of the given kind aimed at a bare target. -/
def bareTest (kind target : String) : Test where
  kind := kind
  target := target
  input := target ++ " must run " ++ kind
  arguments := .empty

/-- A name in capitals has a URL of the same host, and there is none for an IPv6 address without brackets. -/
theorem example_asked_and_literal_not :
    (isUri (bareTest "https" "Example.com").target = false ∧ isUri (bareTest "http" "2001:db8::1").target = false) ∧
      (∃ url host s, requestUrl (bareTest "https" "Example.com") = .ok url ∧ String.ofList url.scheme = "https" ∧
        url.host? = some host ∧ hostOf "Example.com" = .ok s ∧ host.WrittenAs s.toList) ∧
      ∃ reason, requestUrl (bareTest "http" "2001:db8::1") = .error reason := by
  have name : isUri (bareTest "https" "Example.com").target = false := by decide +kernel
  have literal : isUri (bareTest "http" "2001:db8::1").target = false := by decide +kernel
  have read : Address.readV6 (bareTest "http" "2001:db8::1").target.toList =
      some #v[0x2001, 0xDB8, 0, 0, 0, 0, 0, 1] := by
    decide +kernel
  refine ⟨⟨name, literal⟩, ?_, ?_⟩
  · exact (bare_host_asked_iff (.inr rfl) name).1.2 hostName_example.bare
  · exact ((bare_host_asked_iff (.inl rfl) literal).2 _ read).2

/-- A literal that the lookup answers and the resolver takes as it is, and for which there is no URL. -/
theorem literal_not_asked :
    literalLookup "2001:db8::1" = some [.v6 #v[0x2001, 0xDB8, 0, 0, 0, 0, 0, 1]] ∧
      hostOf "2001:db8::1" = .ok "2001:db8::1" ∧
      requestUrl (bareTest "http" "2001:db8::1") = .error "Invalid URL http://2001:db8::1/: invalid port number" := by
  refine ⟨by decide +kernel, by decide +kernel, ?_⟩
  decide +kernel

end Probe

end Lookout
