import Lookout.Url.Parser
import Lookout.Proofs.Url.Hosts
import Mathlib.Data.Bool.AllAny

/-!
# URLs of a host alone

A text between the scheme of a web URL and a slash is read as a host, as long as it holds nothing that ends a host. With
a colon in it there would be a port behind that, and two colons are no port. The name of the host of any web URL is
plain.
-/

namespace Lookout.Url
set_option autoImplicit false
open Text DomainName

variable {scheme s a b : List Char}

/-- The schemes of the web. -/
def IsWeb (scheme : List Char) : Prop :=
  scheme = "http".toList ∨ scheme = "https".toList

theorem IsWeb.special (web : IsWeb scheme) : isSpecial scheme = true := by
  rcases web with rfl | rfl
  · rfl
  · rfl

theorem IsWeb.not_file (web : IsWeb scheme) : isFile scheme = false := by
  rcases web with rfl | rfl
  · rfl
  · rfl

theorem IsWeb.visible (web : IsWeb scheme) : ∀ c ∈ scheme, 0x20 < c.toNat := by
  rcases web with rfl | rfl
  · exact List.all_iff_forall_prop.1 rfl
  · exact List.all_iff_forall_prop.1 rfl

theorem IsWeb.readScheme?_append (web : IsWeb scheme) (s : List Char) :
    readScheme? (scheme ++ ':' :: s) = some (scheme, s) := by
  rcases web with rfl | rfl
  · rfl
  · rfl

/-- A character that does not count at the ends of a URL. -/
def isOuter (c : Char) : Bool :=
  c.toNat ≤ 0x20

/-- A character that counts within a URL. -/
def isKept (c : Char) : Bool :=
  !(c == '\t' || c == '\n' || c == '\r')

/-- What counts of the beginning of a URL. -/
def cleanedStart (s : List Char) : List Char :=
  (s.dropWhile isOuter).filter isKept

/-- What counts of the end of a URL. -/
def cleanedEnd (s : List Char) : List Char :=
  (s.reverse.dropWhile isOuter).reverse.filter isKept

theorem isKept_of_visible {c : Char} (visible : 0x20 < c.toNat) : isKept c = true := by
  have other : ∀ d : Char, d.toNat ≤ 0x20 → c ≠ d := by
    rintro d low rfl
    omega
  simp [isKept, other]

theorem isOuter_eq_false {c : Char} (visible : 0x20 < c.toNat) : ¬ isOuter c = true := by
  simpa [isOuter] using visible

theorem dropWhile_isOuter_append_cons {c : Char} (visible : 0x20 < c.toNat) (s t : List Char) :
    (s ++ c :: t).dropWhile isOuter = s.dropWhile isOuter ++ c :: t := by
  rw [List.dropWhile_append]
  split
  · next empty =>
    rw [List.dropWhile_cons_of_neg (isOuter_eq_false visible), List.isEmpty_iff.1 empty, List.nil_append]
  · rfl

/-- Around a visible character, blanks are left out on the outer sides only. -/
theorem cleaned_append_cons {c : Char} (visible : 0x20 < c.toNat) (s t : List Char) :
    cleaned (s ++ c :: t) = cleanedStart s ++ c :: cleanedEnd t := by
  have turned : (s.dropWhile isOuter ++ c :: t).reverse = t.reverse ++ c :: (s.dropWhile isOuter).reverse := by simp
  change ((((s ++ c :: t).dropWhile isOuter).reverse.dropWhile isOuter).reverse).filter isKept = _
  rw [dropWhile_isOuter_append_cons visible, turned, dropWhile_isOuter_append_cons visible]
  simp [cleanedStart, cleanedEnd, isKept_of_visible visible]

/-- Nothing that counts is left out at the end if the last character that counts is visible. -/
theorem cleaned_eq_cleanedStart (visible : ∀ c ∈ (s.filter isKept).getLast?, 0x20 < c.toNat) :
    cleaned s = cleanedStart s := by
  have start := List.takeWhile_append_dropWhile (p := isOuter) (l := s)
  have ending := List.takeWhile_append_dropWhile (p := isOuter) (l := (s.dropWhile isOuter).reverse)
  have low : ∀ c ∈ (s.dropWhile isOuter).reverse.takeWhile isOuter, isOuter c = true :=
    fun c mem => List.mem_takeWhile_imp mem
  change ((s.dropWhile isOuter).reverse.dropWhile isOuter).reverse.filter isKept = (s.dropWhile isOuter).filter isKept
  generalize (s.dropWhile isOuter).reverse.takeWhile isOuter = blanks at low ending
  generalize (s.dropWhile isOuter).reverse.dropWhile isOuter = rest at ending ⊢
  have whole : s.dropWhile isOuter = rest.reverse ++ blanks.reverse := by
    rw [← List.reverse_append, ending, List.reverse_reverse]
  rw [← start, whole, ← List.append_assoc, List.filter_append] at visible
  rw [whole, List.filter_append]
  -- a blank that counts would be the last character that does
  cases counted : blanks.reverse.filter isKept using List.reverseRecOn with
  | nil => rw [List.append_nil]
  | append_singleton front c =>
    rw [counted] at visible
    have mem : c ∈ blanks.reverse.filter isKept := by simp [counted]
    exact absurd (low c (List.mem_reverse.1 (List.mem_filter.1 mem).1)) (isOuter_eq_false (visible c (by simp)))

theorem cleanedStart_cons {c : Char} (visible : 0x20 < c.toNat) (kept : ∀ d ∈ s, isKept d = true) :
    cleanedStart (c :: s) = c :: s := by
  rw [cleanedStart, List.dropWhile_cons_of_neg (isOuter_eq_false visible), List.filter_eq_self]
  exact List.forall_mem_cons.2 ⟨isKept_of_visible visible, kept⟩

/-- The end of a URL counts as it is if all of its characters do and the last one is visible. -/
theorem cleanedEnd_eq_self_iff :
    cleanedEnd s = s ↔ (∀ c ∈ s, isKept c = true) ∧ ∀ c ∈ s.getLast?, 0x20 < c.toNat := by
  have ending : s.reverse.dropWhile isOuter = s.reverse ↔ ∀ c ∈ s.getLast?, 0x20 < c.toNat := by
    rw [← List.head?_reverse]
    cases s.reverse with
    | nil => simp
    | cons c r =>
      rw [List.dropWhile_eq_self_iff]
      simp [isOuter]
  rw [← ending]
  constructor
  · intro same
    have kept : ∀ c ∈ s, isKept c = true := by
      rw [← same]
      exact fun c mem => (List.mem_filter.1 mem).2
    refine ⟨kept, List.IsSuffix.eq_of_length_le (List.dropWhile_suffix _) ?_⟩
    have shorter := List.length_filter_le isKept (s.reverse.dropWhile isOuter).reverse
    rw [← cleanedEnd, same] at shorter
    simpa using shorter
  · rintro ⟨kept, whole⟩
    rw [cleanedEnd, whole, List.reverse_reverse, List.filter_eq_self.2 kept]

theorem cleanedEnd_eq_self (visible : ∀ c ∈ s, 0x20 < c.toNat) : cleanedEnd s = s :=
  cleanedEnd_eq_self_iff.2
    ⟨fun c mem => isKept_of_visible (visible c mem), fun c mem => visible c (List.mem_of_getLast? mem)⟩

theorem cleanedEnd_sublist (s : List Char) : (cleanedEnd s).Sublist s := by
  have turned : (s.reverse.dropWhile isOuter).reverse <+: s := by
    rw [← List.reverse_suffix, List.reverse_reverse]
    exact List.dropWhile_suffix _
  exact List.filter_sublist.trans turned.sublist

/-- A text without blanks and control characters counts as it is. -/
theorem cleaned_eq_self (visible : ∀ c ∈ s, 0x20 < c.toNat) : cleaned s = s := by
  cases s with
  | nil => rfl
  | cons c s =>
    rw [List.forall_mem_cons] at visible
    have cut := cleaned_append_cons visible.1 [] s
    rwa [cleanedEnd_eq_self visible.2] at cut

theorem ofChars_web (web : IsWeb scheme) (visible : ∀ c ∈ s, 0x20 < c.toNat) :
    ofChars (scheme ++ ':' :: '/' :: '/' :: s) = readAfterSlashes scheme (s.dropWhile (isSlash true)) := by
  have whole : ∀ c ∈ scheme ++ ':' :: '/' :: '/' :: s, 0x20 < c.toNat := by
    intro c mem
    simp only [List.mem_append, List.mem_cons] at mem
    rcases mem with front | rfl | rfl | rfl | back
    · exact web.visible c front
    · decide
    · decide
    · decide
    · exact visible c back
  rw [ofChars, cleaned_eq_self whole, web.readScheme?_append]
  simp [web.not_file, web.special, isSlash]

/-! ### The authority -/

/-- What has neither a colon nor a bracket belongs to the host. -/
theorem splitHost_append (noColon : ':' ∉ a) (noBracket : '[' ∉ a) (r : List Char) :
    splitHost false (a ++ r) = (a ++ (splitHost false r).1, (splitHost false r).2) := by
  induction a with
  | nil => rfl
  | cons c a ih =>
    rw [List.mem_cons, not_or] at noColon noBracket
    have colon : (c == ':') = false := beq_false_of_ne (Ne.symm noColon.1)
    have bracket : (c == '[') = false := beq_false_of_ne (Ne.symm noBracket.1)
    rw [List.cons_append, splitHost, colon, bracket]
    simp [ih noColon.2 noBracket.2]

theorem splitHost_colon (noColon : ':' ∉ a) (noBracket : '[' ∉ a) (b : List Char) :
    splitHost false (a ++ ':' :: b) = (a, ':' :: b) := by
  have ends : splitHost false (':' :: b) = ([], ':' :: b) := rfl
  rw [splitHost_append noColon noBracket, ends, List.append_nil]

theorem splitHost_eq_self (noColon : ':' ∉ s) (noBracket : '[' ∉ s) : splitHost false s = (s, []) := by
  have whole := splitHost_append noColon noBracket []
  have ends : splitHost false [] = ([], []) := rfl
  rwa [ends, List.append_nil] at whole

/-- In brackets colons belong to the host. -/
theorem splitHost_bracketed_append (noBracket : ']' ∉ s) (r : List Char) :
    splitHost false ('[' :: s ++ ']' :: r) = ('[' :: s ++ ']' :: (splitHost false r).1, (splitHost false r).2) := by
  have inside : splitHost true (s ++ ']' :: r) = (s ++ ']' :: (splitHost false r).1, (splitHost false r).2) := by
    induction s with
    | nil => rfl
    | cons c s ih =>
      rw [List.mem_cons, not_or] at noBracket
      have stays : (c == '[' || (true && c != ']')) = true := by simp [Ne.symm noBracket.1]
      rw [List.cons_append, splitHost, stays]
      simp [ih noBracket.2]
  simp [splitHost, inside]

theorem splitHost_bracketed (noBracket : ']' ∉ s) : splitHost false ('[' :: s ++ [']']) = ('[' :: s ++ [']'], []) :=
  splitHost_bracketed_append noBracket []

theorem splitLast_eq_none (absent : '@' ∉ s) : splitLast '@' s = none := by
  rw [splitLast, splitOnce_eq_none_iff.2 (by simpa using absent), Option.map_none]

/-- An authority without a user begins with its host. -/
theorem readAuthority_of_noAt {ended : Bool} (noAt : '@' ∉ s) (split : splitHost false s = (a, b)) :
    readAuthority scheme ended s = if isSpecial scheme && a.isEmpty then .error .emptyHost else (do
      let host ← if isSpecial scheme then Host.ofDomain a else Host.ofOpaque a
      if host.isEmpty && b.head? == some ':' then .error .emptyHost
      let port ← readPort (defaultPort scheme) ((b.drop 1).takeWhile (· != '\\'))
      return (⟨[], [], host, port⟩, b.dropWhile (· != '\\'))) := by
  have noUser : readUserinfo [] = ([], []) := rfl
  have first : (s.head? == some '@') = false := by
    cases s with
    | nil => rfl
    | cons c s => simpa using fun e => noAt (by simp [e])
  unfold readAuthority
  simp only [splitLast_eq_none noAt, Option.getD_none, noUser, split, first]
  by_cases empty : (isSpecial scheme && a.isEmpty) = true
  · simp [empty, bind, Except.bind]
  · simp [empty]

theorem readAuthority_of_no_user (web : IsWeb scheme) (noAt : '@' ∉ s) (split : splitHost false s = (a, b)) :
    readAuthority scheme true s = if a.isEmpty then .error .emptyHost else (do
      let host ← Host.ofDomain a
      if host.isEmpty && b.head? == some ':' then .error .emptyHost
      let port ← readPort (defaultPort scheme) ((b.drop 1).takeWhile (· != '\\'))
      return (⟨[], [], host, port⟩, b.dropWhile (· != '\\'))) := by
  rw [readAuthority_of_noAt noAt split, web.special]
  rfl

/-- A host without user and port. -/
theorem readAuthority_host (web : IsWeb scheme) (nonempty : s ≠ []) (noAt : '@' ∉ s)
    (whole : splitHost false s = (s, [])) :
    readAuthority scheme true s = (Host.ofDomain s).map fun host => (⟨[], [], host, none⟩, []) := by
  rw [readAuthority_of_no_user web noAt whole, if_neg (by simpa using nonempty)]
  cases Host.ofDomain s with
  | error e => rfl
  | ok host =>
    have noPort : readPort (defaultPort scheme) [] = .ok none := rfl
    simp [noPort, Except.map, bind, Except.bind, pure, Except.pure]

theorem readPort_of_colon {implied : Option Nat} (colon : ':' ∈ b) : readPort implied b = .error .invalidPort := by
  have failed : ∀ (cs : List Char) (value : Nat), ':' ∈ cs →
      ∃ e, readDigits maxWord16 .tooLarge value cs = .error e := by
    intro cs
    induction cs with
    | nil => simp
    | cons c cs ih =>
      intro value mem
      rw [readDigits]
      split
      · next numeric =>
        have later : ':' ∈ cs := by
          rcases List.mem_cons.1 mem with rfl | later
          · cases numeric
          · exact later
        simp only
        split
        · exact ih _ later
        · exact ⟨_, rfl⟩
      · exact ⟨_, rfl⟩
  obtain ⟨c, r, rfl⟩ := List.exists_cons_of_ne_nil (List.ne_nil_of_mem colon)
  obtain ⟨e, wrong⟩ := failed (c :: r) 0 colon
  have magnitude : readMagnitude maxWord16 .tooLarge (c :: r) = .error e := wrong
  rw [readPort, magnitude]
  rfl

/-- What stands behind a second colon is no port. -/
theorem readAuthority_colons (web : IsWeb scheme) (noAt : '@' ∉ s) (split : splitHost false s = (a, ':' :: b))
    (more : ':' ∈ b) (noBackslash : '\\' ∉ b) : ∃ e, readAuthority scheme true s = .error e := by
  rw [readAuthority_of_no_user web noAt split]
  split_ifs with empty
  · exact ⟨.emptyHost, rfl⟩
  · have port : b.takeWhile (· != '\\') = b := by
      rw [List.takeWhile_eq_self_iff]
      rintro c mem
      rw [bne_iff_ne]
      rintro rfl
      exact noBackslash mem
    cases Host.ofDomain a with
    | error e => exact ⟨e, rfl⟩
    | ok host =>
      by_cases empty : host.isEmpty = true
      · exact ⟨.emptyHost, by simp [empty, bind, Except.bind]⟩
      · exact ⟨.invalidPort, by simp [empty, port, readPort_of_colon more, bind, Except.bind]⟩

/-! ### The URL -/

/-- A character that ends neither a host nor an authority, and is not in front of a user. -/
def HostChar (c : Char) : Prop :=
  0x20 < c.toNat ∧ c ∉ ['/', '\\', '?', '#', '@']

instance : DecidablePred HostChar :=
  inferInstanceAs (DecidablePred fun c => 0x20 < c.toNat ∧ c ∉ ['/', '\\', '?', '#', '@'])

/-- A text that an authority may consist of as its host. -/
structure Alone (s : List Char) : Prop where
  nonempty : s ≠ []
  chars : ∀ c ∈ s, HostChar c
  whole : splitHost false s = (s, [])

theorem readAfterSlashes_host (web : IsWeb scheme) (chars : ∀ c ∈ s, HostChar c) :
    readAfterSlashes scheme (s ++ ['/']) =
      (readAuthority scheme true s).map fun p => assemble scheme (some p.1) (p.2 ++ ['/']) := by
  have within : ∀ c ∈ s, (!endsAuthority true c) = true := by
    intro c mem
    have other := (chars c mem).2
    simp only [List.mem_cons, List.not_mem_nil, or_false, not_or] at other
    simp [endsAuthority, isSlash, other]
  have stop : (!endsAuthority true '/') = false := rfl
  rw [readAfterSlashes]
  simp only [web.special]
  rw [takeWhile_append_cons within stop, dropWhile_append_cons within stop]
  rfl

/-- Between a scheme of the web and a slash stands an authority. -/
theorem ofChars_authority (web : IsWeb scheme) (nonempty : s ≠ []) (chars : ∀ c ∈ s, HostChar c) :
    ofChars (scheme ++ ':' :: '/' :: '/' :: (s ++ ['/'])) =
      (readAuthority scheme true s).map fun p => assemble scheme (some p.1) (p.2 ++ ['/']) := by
  have visible : ∀ c ∈ s ++ ['/'], 0x20 < c.toNat := by
    intro c mem
    rcases List.mem_append.1 mem with inside | slash
    · exact (chars c inside).1
    · obtain rfl := List.mem_singleton.1 slash
      decide
  have kept : (s ++ ['/']).dropWhile (isSlash true) = s ++ ['/'] := by
    obtain ⟨c, r, rfl⟩ := List.exists_cons_of_ne_nil nonempty
    have other := (chars c (by simp)).2
    simp only [List.mem_cons, List.not_mem_nil, or_false, not_or] at other
    rw [List.cons_append, List.dropWhile_cons_of_neg]
    simp [isSlash, other]
  rw [ofChars_web web visible, kept, readAfterSlashes_host web chars]

theorem HostChar.at_not_mem (chars : ∀ c ∈ s, HostChar c) : '@' ∉ s := fun mem => (chars '@' mem).2 (by simp)

/-- What stands alone is the host of the URL. -/
theorem ofChars_host (web : IsWeb scheme) (alone : Alone s) : ofChars (scheme ++ ':' :: '/' :: '/' :: (s ++ ['/'])) =
    (Host.ofDomain s).map fun host => assemble scheme (some ⟨[], [], host, none⟩) ['/'] := by
  rw [ofChars_authority web alone.nonempty alone.chars,
    readAuthority_host web alone.nonempty (HostChar.at_not_mem alone.chars) alone.whole]
  cases Host.ofDomain s with
  | error e => rfl
  | ok host => rfl

/-- A text with two colons is no host. -/
theorem ofChars_colons (web : IsWeb scheme) (chars : ∀ c ∈ a ++ ':' :: b, HostChar c) (noColon : ':' ∉ a)
    (noBracket : '[' ∉ a) (more : ':' ∈ b) :
    ∃ e, ofChars (scheme ++ ':' :: '/' :: '/' :: (a ++ ':' :: b ++ ['/'])) = .error e := by
  have noBackslash : '\\' ∉ b := fun mem => (chars '\\' (by simp [mem])).2 (by simp)
  obtain ⟨e, failed⟩ :=
    readAuthority_colons web (HostChar.at_not_mem chars) (splitHost_colon noColon noBracket b) more noBackslash
  refine ⟨e, ?_⟩
  rw [ofChars_authority web (by simp) chars, failed]
  rfl

/-! ### What stands alone -/

theorem hostChar_of_plain (plain : Plain s) : ∀ c ∈ s, HostChar c := by
  intro c mem
  have all : isForbidden c = false → HostChar c :=
    ascii_induction (motive := fun c => isForbidden c = false → HostChar c) (by decide +kernel) (plain c mem).1
  exact all (plain c mem).2

theorem alone_of_plain (nonempty : s ≠ []) (plain : Plain s) : Alone s :=
  ⟨nonempty, hostChar_of_plain plain, splitHost_eq_self (plain.not_mem (by decide)) (plain.not_mem (by decide))⟩

/-- A character of an address is one of a host, and no bracket. -/
theorem hostChar_of_literalChar {c : Char} (literal : Address.LiteralChar c) : HostChar c ∧ c ≠ '[' ∧ c ≠ ']' := by
  have small : isAscii c = true := by
    have := literal.toNat_le
    simp only [isAscii, decide_eq_true_eq]
    omega
  have all : Address.LiteralChar c → HostChar c ∧ c ≠ '[' ∧ c ≠ ']' :=
    ascii_induction (motive := fun c => Address.LiteralChar c → HostChar c ∧ c ≠ '[' ∧ c ≠ ']')
      (by decide +kernel) small
  exact all literal

theorem alone_bracketed (literal : ∀ c ∈ s, Address.LiteralChar c) : Alone ('[' :: s ++ [']']) := by
  refine ⟨by simp, ?_, splitHost_bracketed fun mem => (hostChar_of_literalChar (literal ']' mem)).2.2 rfl⟩
  intro c mem
  simp only [List.cons_append, List.mem_cons, List.mem_append, List.not_mem_nil, or_false] at mem
  rcases mem with rfl | inside | rfl
  · decide
  · exact (hostChar_of_literalChar (literal c inside)).1
  · decide

/-! ### Names of hosts -/

/-- The host of a special URL is read as such, and there is one; what is behind a backslash is left. -/
theorem of_readAuthority {ended : Bool} {authority : Authority} (special : isSpecial scheme = true)
    (read : readAuthority scheme ended s = .ok (authority, b)) :
    Host.ofDomain (splitHost false ((splitLast '@' s).getD ([], s)).2).1 = .ok authority.host ∧
      (splitHost false ((splitLast '@' s).getD ([], s)).2).1 ≠ [] ∧
      b = (splitHost false ((splitLast '@' s).getD ([], s)).2).2.dropWhile (· != '\\') := by
  unfold readAuthority at read
  simp only [special, if_true, bind, Except.bind, pure, Except.pure] at read
  split at read
  · cases read
  split at read
  · cases read
  next filled =>
  split at read
  · cases read
  next host parsed =>
    split at read
    · cases read
    split at read
    · cases read
    split at read
    · cases read
    obtain ⟨rfl, rfl⟩ := Prod.mk.inj (Except.ok.inj read)
    exact ⟨parsed, by simpa using filled, rfl⟩

theorem map_eq_ok_iff {ε α β : Type} {f : α → β} {x : Except ε α} {y : β} :
    x.map f = .ok y ↔ ∃ v, x = .ok v ∧ f v = y := by
  cases x with
  | error e => simp [Except.map]
  | ok v => simp [Except.map]

theorem scheme_of_readFile {url : Url} (read : readFile scheme s = .ok url) : url.scheme = scheme := by
  unfold readFile at read
  split at read
  · split at read
    · simp only at read
      split at read
      · obtain rfl := Except.ok.inj read
        rfl
      split at read
      · obtain rfl := Except.ok.inj read
        rfl
      obtain ⟨host, -, rfl⟩ := map_eq_ok_iff.1 read
      rfl
    · obtain rfl := Except.ok.inj read
      rfl
  · obtain rfl := Except.ok.inj read
    rfl

/-- The scheme of a URL is the one that it begins with. -/
theorem scheme_of_ofChars {input : List Char} {url : Url} (read : ofChars input = .ok url) :
    ∃ s, readScheme? (cleaned input) = some (url.scheme, s) := by
  unfold ofChars at read
  split at read
  · cases read
  next scheme s known =>
  refine ⟨s, ?_⟩
  suffices same : url.scheme = scheme by rw [known, same]
  split at read
  · exact scheme_of_readFile read
  split at read
  · obtain ⟨p, -, rfl⟩ := map_eq_ok_iff.1 read
    rfl
  split at read
  · obtain ⟨p, -, rfl⟩ := map_eq_ok_iff.1 read
    rfl
  · obtain rfl := Except.ok.inj read
    rfl
  · obtain rfl := Except.ok.inj read
    rfl

/-- What follows a scheme of the web and its slashes begins with an authority. -/
theorem ofChars_of_readScheme? {input : List Char} (web : IsWeb scheme)
    (known : readScheme? (cleaned input) = some (scheme, s)) :
    ofChars input = readAfterSlashes scheme (s.dropWhile (isSlash true)) := by
  rw [ofChars, known]
  simp [web.not_file, web.special]

/-- **The name of the host of a web URL is plain.** -/
theorem plain_of_ofChars {input n : List Char} {url : Url} (read : ofChars input = .ok url) (web : IsWeb url.scheme)
    (named : url.host? = some (.name n)) : Plain n := by
  obtain ⟨s, known⟩ := scheme_of_ofChars read
  rw [ofChars_of_readScheme? web known] at read
  obtain ⟨⟨authority, rest⟩, parts, whole⟩ := map_eq_ok_iff.1 read
  obtain ⟨host, -, -⟩ := of_readAuthority web.special parts
  rw [← whole] at named
  have name : authority.host = .name n := (Option.filter_eq_some_iff.1 named).1 |> Option.some.inj
  exact Host.plain_of_ofDomain (name ▸ host)

end Lookout.Url
