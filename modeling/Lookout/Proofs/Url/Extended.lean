import Lookout.Proofs.Text.Joining
import Lookout.Proofs.Url.Alone
import Lookout.Proofs.Url.Paths

/-!
# URLs extended by a path

A URL of the web without query and fragment, the slashes at its end left out, is read with more of a path behind it as
the URL that it is, with these segments added to its own.
-/

namespace Lookout.Url
set_option autoImplicit false
open Text

variable {scheme s t u x y : List Char}

/-! ### Scheme -/

theorem readScheme?_eq_some_iff : readScheme? t = some (scheme, s) ↔
    ∃ n, t = n ++ ':' :: s ∧ n.head?.any Char.isAlpha = true ∧ (∀ c ∈ n, isSchemeChar c = true) ∧
      n.map Char.toLower = scheme := by
  constructor
  · intro read
    unfold readScheme? at read
    split at read
    · next c r =>
      split at read
      · next letter =>
        split at read
        · next rest drop =>
          obtain ⟨lower, rfl⟩ := Prod.mk.inj (Option.some.inj read)
          have first : isSchemeChar c = true := by simp [isSchemeChar, Char.isAlphanum, letter]
          refine ⟨(c :: r).takeWhile isSchemeChar, eq_takeWhile_append drop, ?_, ?_, lower⟩
          · simp [first, letter]
          · exact fun d mem => List.mem_takeWhile_imp mem
        · cases read
      · cases read
    · cases read
  · rintro ⟨n, rfl, letter, chars, rfl⟩
    cases n with
    | nil => cases letter
    | cons c r =>
      have letter : c.isAlpha = true := by simpa using letter
      have stop : isSchemeChar ':' = false := rfl
      have take := takeWhile_append_cons (r := s) chars stop
      have drop := dropWhile_append_cons (r := s) chars stop
      rw [List.cons_append] at take drop ⊢
      simp [readScheme?, letter, take, drop]

/-- The scheme and its colon stand where the text goes on without colons. -/
theorem readScheme?_append (noColon : ':' ∉ x) (read : readScheme? (u ++ x) = some (scheme, s)) :
    ∃ r, s = r ++ x ∧ ∀ y, readScheme? (u ++ y) = some (scheme, r ++ y) := by
  obtain ⟨n, text, letter, chars, lower⟩ := readScheme?_eq_some_iff.1 read
  obtain ⟨r, rfl, rfl⟩ := append_eq_append_cons noColon text
  refine ⟨r, rfl, fun y => readScheme?_eq_some_iff.2 ⟨n, by simp, letter, chars, lower⟩⟩

/-! ### Authority -/

theorem splitHost_parts (bracketed : Bool) (s : List Char) :
    (splitHost bracketed s).1 ++ (splitHost bracketed s).2 = s := by
  induction s generalizing bracketed with
  | nil => rfl
  | cons c s ih =>
    rw [splitHost]
    split
    · rfl
    · simp [ih]

theorem mem_of_splitLast {c d : Char} {a b : List Char} (cut : splitLast c s = some (a, b)) (mem : d ∈ b) : d ∈ s := by
  obtain ⟨⟨front, back⟩, split, parts⟩ := Option.map_eq_some_iff.1 cut
  obtain ⟨-, rfl⟩ := Prod.mk.inj parts
  have whole := (splitOnce_eq_some split).1
  rw [← List.mem_reverse, whole]
  exact List.mem_append_left _ (List.mem_reverse.1 mem)

/-- The authority of a special URL is read in the same way whether or not something follows it, and leaves nothing if
there is no backslash in it. -/
theorem readAuthority_special (special : isSpecial scheme = true) (ended ended' : Bool) (s : List Char) :
    readAuthority scheme ended s = readAuthority scheme ended' s := by
  have closed : ∀ ended, readAuthority scheme ended s = readAuthority scheme false s := by
    intro ended
    unfold readAuthority
    obtain ⟨userinfo, hostPort⟩ := (splitLast '@' s).getD ([], s)
    by_cases bare : (userinfo.isEmpty && s.head? == some '@' && hostPort.isEmpty && ended) = true
    · -- there is no host then, so that the other branch fails for the same reason
      have noHost : hostPort = [] := by simpa using ((Bool.and_eq_true _ _).mp ((Bool.and_eq_true _ _).mp bare).1).2
      subst noHost
      have empty : splitHost false [] = ([], []) := rfl
      simp [special, empty, bind, Except.bind]
    · simp [bare]
  rw [closed ended, closed ended']

theorem rest_of_readAuthority {ended : Bool} {authority : Authority} {rest : List Char}
    (special : isSpecial scheme = true) (noBackslash : '\\' ∉ s)
    (read : readAuthority scheme ended s = .ok (authority, rest)) : s ≠ [] ∧ rest = [] := by
  obtain ⟨-, filled, rfl⟩ := of_readAuthority special read
  constructor
  · rintro rfl
    exact filled rfl
  · have absent : '\\' ∉ ((splitLast '@' s).getD ([], s)).2 := by
      cases cut : splitLast '@' s with
      | none => exact noBackslash
      | some p => exact fun mem => noBackslash (mem_of_splitLast (b := p.2) cut mem)
    rw [List.dropWhile_eq_nil_iff]
    intro c mem
    rw [bne_iff_ne]
    rintro rfl
    rw [← splitHost_parts false ((splitLast '@' s).getD ([], s)).2] at absent
    exact absent (List.mem_append_right _ mem)

/-! ### What follows -/

/-- A text at whose beginning an authority ends. -/
def Ends (p : Char → Bool) (x : List Char) : Prop :=
  ∀ c ∈ x.head?, p c = true

theorem takeWhile_append_of_ends {p : Char → Bool} (ends : Ends p x) (u : List Char) :
    (u ++ x).takeWhile (!p ·) = u.takeWhile (!p ·) := by
  have stop : x.takeWhile (!p ·) = [] := by
    cases x with
    | nil => rfl
    | cons c r => exact List.takeWhile_cons_of_neg (by simp [ends c rfl])
  rw [List.takeWhile_append, stop, List.append_nil]
  split
  · next whole => rw [(List.takeWhile_prefix _).eq_of_length whole]
  · rfl

theorem dropWhile_append_of_ends {p : Char → Bool} (ends : Ends p x) (u : List Char) :
    (u ++ x).dropWhile (!p ·) = u.dropWhile (!p ·) ++ x := by
  have stop : x.dropWhile (!p ·) = x := by
    cases x with
    | nil => rfl
    | cons c r => exact List.dropWhile_cons_of_neg (by simp [ends c rfl])
  rw [List.dropWhile_append, stop]
  split
  · next empty => rw [List.isEmpty_iff.1 empty, List.nil_append]
  · rfl

/-- What follows an authority belongs to the rest. -/
theorem readAfterSlashes_append (special : isSpecial scheme = true) (ends : Ends (endsAuthority true) x)
    (u : List Char) :
    readAfterSlashes scheme (u ++ x) = (readAuthority scheme true (u.takeWhile (!endsAuthority true ·))).map fun p =>
      assemble scheme (some p.1) (u.dropWhile (!endsAuthority true ·) ++ x) := by
  rw [readAfterSlashes]
  simp only [special, takeWhile_append_of_ends ends, dropWhile_append_of_ends ends]
  rw [readAuthority_special special _ true]
  have noBackslash : '\\' ∉ u.takeWhile (!endsAuthority true ·) := by
    intro mem
    have inside := List.mem_takeWhile_imp mem
    simp [endsAuthority, isSlash] at inside
  cases read : readAuthority scheme true (u.takeWhile (!endsAuthority true ·)) with
  | error e => rfl
  | ok p =>
    obtain ⟨authority, rest⟩ := p
    obtain ⟨-, rfl⟩ := rest_of_readAuthority special noBackslash read
    rfl

/-- Without query and fragment nothing ends the path. -/
theorem not_endsPath_of_readTail {special : Bool} (read : readTail special (s.dropWhile (!endsPath ·)) = (none, none)) :
    ∀ c ∈ s, endsPath c = false := by
  cases rest : s.dropWhile (!endsPath ·) with
  | nil => simpa using List.dropWhile_eq_nil_iff.1 rest
  | cons c r =>
    have found : endsPath c = true := by
      have first := List.head_dropWhile_not (!endsPath ·) (l := s) (by simp [rest])
      simpa [rest] using first
    rw [rest] at read
    have either : c = '?' ∨ c = '#' := by simpa [endsPath] using found
    rcases either with rfl | rfl
    · simp only [readTail] at read
      split at read <;> cases read
    · cases read

theorem assemble_append (special : isSpecial scheme = true) (authority : Option Authority)
    (inside : ∀ c ∈ u, endsPath c = false) (x : List Char) : assemble scheme authority (u ++ x) =
      { scheme, authority, path := readPath true (u ++ x.takeWhile (!endsPath ·))
        query := (readTail true (x.dropWhile (!endsPath ·))).1
        fragment := (readTail true (x.dropWhile (!endsPath ·))).2 } := by
  have within : ∀ c ∈ u, (!endsPath c) = true := fun c mem => by simp [inside c mem]
  rw [assemble]
  simp only [special, List.takeWhile_append_of_pos within, List.dropWhile_append_of_pos within]

/-! ### The path -/

theorem splitSegments_append_replicate (special : Bool) (u : List Char) (k : Nat) :
    splitSegments special (u ++ List.replicate k '/') = splitSegments special u ++ List.replicate k [] := by
  induction k generalizing u with
  | zero => simp
  | succ k ih =>
    have rest : splitSegments special (List.replicate k '/') = [] :: List.replicate k [] := ih []
    rw [List.replicate_succ, splitSegments_append_slash, rest, ← List.replicate_succ]

/-- The segments of a path that begins with a slash. -/
def segmentsOf (u : List Char) : List (List Char) :=
  if u.isEmpty then [] else splitSegments true (u.drop 1)

theorem readPath_append_slash (begins : Ends (isSlash true) u) (y : List Char) :
    readPath true (u ++ '/' :: y) = (resolveSegments [] (segmentsOf u ++ splitSegments true y)).flatMap ('/' :: ·) := by
  cases u with
  | nil => rfl
  | cons c r =>
    have slash : isSlash true c = true := begins c rfl
    rw [List.cons_append, readPath]
    simp [slash, segmentsOf, splitSegments_append_slash]

theorem readPath_append_replicate (begins : Ends (isSlash true) u) (k : Nat) : ∃ k',
    readPath true (u ++ List.replicate k '/') =
      (resolveSegments [] (segmentsOf u ++ List.replicate k' [])).flatMap ('/' :: ·) := by
  cases u with
  | nil =>
    cases k with
    | zero => exact ⟨1, rfl⟩
    | succ k =>
      refine ⟨k + 1, ?_⟩
      have cut := splitSegments_append_replicate true [] k
      have slash : isSlash true '/' = true := rfl
      rw [List.nil_append] at cut ⊢
      rw [List.replicate_succ, readPath]
      simp [slash, cut, segmentsOf, splitSegments, List.replicate_succ]
  | cons c r =>
    have slash : isSlash true c = true := begins c rfl
    refine ⟨k, ?_⟩
    rw [List.cons_append, readPath]
    simp [slash, segmentsOf, splitSegments_append_replicate]

theorem slash_not_mem_of_isSlash (unslashed : ∀ c ∈ s, isSlash true c = false) : '/' ∉ s := by
  intro mem
  cases unslashed '/' mem

theorem slash_not_mem_segmentsOf (u : List Char) : ∀ p ∈ segmentsOf u, '/' ∉ p := by
  unfold segmentsOf
  split
  · simp
  · exact fun p mem => slash_not_mem_of_isSlash (isSlash_of_mem_splitSegments mem)

/-! ### The URL -/

/-- The authority of a URL without query and fragment is read in front of any path, whatever number of slashes is behind
the URL. -/
theorem exists_authority {r : List Char} {k : Nat} {server : Url} (special : isSpecial scheme = true)
    (read : readAfterSlashes scheme ((r ++ List.replicate k '/').dropWhile (isSlash true)) = .ok server)
    (noQuery : server.query = none) (noFragment : server.fragment = none) :
    ∃ authority u, Ends (isSlash true) u ∧ (∀ c ∈ u ++ List.replicate k '/', endsPath c = false) ∧
      server = assemble scheme (some authority) (u ++ List.replicate k '/') ∧
      ∀ y, readAfterSlashes scheme ((r ++ '/' :: y).dropWhile (isSlash true)) =
        .ok (assemble scheme (some authority) (u ++ '/' :: y)) := by
  have slash : ∀ c ∈ List.replicate k '/', c = '/' := fun c mem => List.eq_of_mem_replicate mem
  have nothing : (List.replicate k '/').dropWhile (isSlash true) = [] := by
    rw [List.dropWhile_eq_nil_iff]
    intro c mem
    rw [slash c mem]
    rfl
  have begun : r.dropWhile (isSlash true) ≠ [] := by
    intro empty
    rw [List.dropWhile_append, empty, nothing] at read
    obtain ⟨⟨authority, rest⟩, parts, -⟩ := map_eq_ok_iff.1 read
    exact (rest_of_readAuthority special (by simp) parts).1 rfl
  have skipped : ∀ x, (r ++ x).dropWhile (isSlash true) = r.dropWhile (isSlash true) ++ x := by
    intro x
    rw [List.dropWhile_append, if_neg (by simpa using begun)]
  generalize r.dropWhile (isSlash true) = q at begun skipped
  have ends : Ends (endsAuthority true) (List.replicate k '/') := by
    intro c mem
    rw [slash c (List.mem_of_mem_head? mem)]
    rfl
  rw [skipped, readAfterSlashes_append special ends] at read
  obtain ⟨⟨authority, rest⟩, parts, rfl⟩ := map_eq_ok_iff.1 read
  have clear : ∀ c ∈ q.dropWhile (!endsAuthority true ·) ++ List.replicate k '/', endsPath c = false :=
    not_endsPath_of_readTail (Prod.ext noQuery noFragment)
  refine ⟨authority, q.dropWhile (!endsAuthority true ·), ?_, clear, rfl, fun y => ?_⟩
  · intro c mem
    have found : endsAuthority true c = true := by
      obtain ⟨s, rest⟩ := List.head?_eq_some_iff.1 mem
      have first := List.head_dropWhile_not (!endsAuthority true ·) (l := q) (by simp [rest])
      simpa [rest] using first
    have inside := clear c (List.mem_append_left _ (List.mem_of_mem_head? mem))
    rw [endsAuthority, Bool.or_assoc] at found
    exact ((Bool.or_eq_true _ _).mp found).resolve_right (by rw [← endsPath, inside]; simp)
  · have ends : Ends (endsAuthority true) ('/' :: y) := by
      intro c mem
      obtain rfl : '/' = c := by simpa using mem
      rfl
    rw [skipped, readAfterSlashes_append special ends, parts]
    rfl

section
variable {t : List Char} {k : Nat} {server : Url}
  (visible : ∀ c ∈ ((t ++ List.replicate k '/').filter isKept).getLast?, 0x20 < c.toNat)
  (read : ofChars (t ++ List.replicate k '/') = .ok server)
include visible read

/-- With a path behind it a text begins with the same scheme. -/
theorem exists_readScheme? : ∃ r,
    readScheme? (cleaned (t ++ List.replicate k '/')) = some (server.scheme, r ++ List.replicate k '/') ∧
      ∀ tail, readScheme? (cleaned (t ++ '/' :: tail)) = some (server.scheme, r ++ '/' :: cleanedEnd tail) := by
  have slash : 0x20 < '/'.toNat := by decide
  have counted : cleaned (t ++ List.replicate k '/') = cleanedStart t ++ List.replicate k '/' := by
    cases k with
    | zero =>
      rw [List.replicate_zero, List.append_nil] at visible ⊢
      rw [cleaned_eq_cleanedStart visible, List.append_nil]
    | succ k =>
      have slashes : ∀ c ∈ List.replicate k '/', 0x20 < c.toNat := by
        intro c mem
        rw [List.eq_of_mem_replicate mem]
        exact slash
      rw [List.replicate_succ, cleaned_append_cons slash, cleanedEnd_eq_self slashes]
  have noColon : ':' ∉ List.replicate k '/' := by
    intro mem
    cases List.eq_of_mem_replicate mem
  obtain ⟨s, known⟩ := scheme_of_ofChars read
  rw [counted] at known ⊢
  obtain ⟨r, rfl, same⟩ := readScheme?_append noColon known
  refine ⟨r, known, fun tail => ?_⟩
  rw [cleaned_append_cons slash]
  exact same ('/' :: cleanedEnd tail)

theorem scheme_of_extended {tail : List Char} {url : Url} (longer : ofChars (t ++ '/' :: tail) = .ok url) :
    url.scheme = server.scheme := by
  obtain ⟨r, -, same⟩ := exists_readScheme? visible read
  obtain ⟨s, known⟩ := scheme_of_ofChars longer
  rw [same] at known
  exact (Prod.mk.inj (Option.some.inj known)).1.symm

/-- **A URL with more of a path behind it.** The segments of the URL itself, last to first, are those before the ones
that are added; slashes at its end are left out. -/
theorem ofChars_extended (web : IsWeb server.scheme) (noQuery : server.query = none)
    (noFragment : server.fragment = none) :
    ∃ before n, (∀ p ∈ before, '/' ∉ p) ∧ server.path = (before.reverse ++ List.replicate n []).flatMap ('/' :: ·) ∧
      ∀ tail, ofChars (t ++ '/' :: tail) = .ok { server with
        path := (resolveSegments before (splitSegments true ((cleanedEnd tail).takeWhile (!endsPath ·)))).flatMap
          ('/' :: ·)
        query := (readTail true ((cleanedEnd tail).dropWhile (!endsPath ·))).1
        fragment := (readTail true ((cleanedEnd tail).dropWhile (!endsPath ·))).2 } := by
  obtain ⟨r, known, same⟩ := exists_readScheme? visible read
  rw [ofChars_of_readScheme? web known] at read
  obtain ⟨authority, u, begins, clear, whole, longer⟩ := exists_authority web.special read noQuery noFragment
  have inside : ∀ c ∈ u, endsPath c = false := fun c mem => clear c (List.mem_append_left _ mem)
  obtain ⟨k', path⟩ := readPath_append_replicate begins k
  obtain ⟨n, resolved⟩ := exists_resolveSegments_eq [] (segmentsOf u) k'
  refine ⟨walked [] (segmentsOf u), n, slash_not_mem_walked (by simp) (slash_not_mem_segmentsOf u), ?_, ?_⟩
  · have parts := assemble_append web.special (some authority) clear []
    rw [List.takeWhile_nil, List.append_nil, path, resolved] at parts
    simpa using congrArg Url.path (whole.trans parts)
  · intro tail
    have take : ('/' :: cleanedEnd tail).takeWhile (!endsPath ·) =
        '/' :: (cleanedEnd tail).takeWhile (!endsPath ·) := rfl
    have drop : ('/' :: cleanedEnd tail).dropWhile (!endsPath ·) = (cleanedEnd tail).dropWhile (!endsPath ·) := rfl
    have own : server.authority = some authority := congrArg Url.authority whole
    rw [ofChars_of_readScheme? web (same tail), longer, assemble_append web.special _ inside, take, drop,
      readPath_append_slash begins, resolveSegments_append (splitSegments_ne_nil _ _), own]

end

end Lookout.Url
