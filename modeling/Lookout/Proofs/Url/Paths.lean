import Lookout.Url.Parser
import Lookout.Proofs.Url.Percent

/-!
# Segments of paths

A path is resolved segment by segment, and what stands in front of more segments is resolved by itself. Segments that
are no dots are added encoded. Every other segment, and every escape, loses something of what the path decodes to: where
nothing is lost, there was nothing to resolve.
-/

namespace Lookout.Url
set_option autoImplicit false
open DomainName

variable {special : Bool} {s a p : List Char} {ps before xs ys segments : List (List Char)}

/-! ### Cutting -/

theorem splitSegments_ne_nil (special : Bool) (s : List Char) : splitSegments special s ≠ [] := by
  induction s with
  | nil => simp [splitSegments]
  | cons c r ih =>
    rw [splitSegments]
    split
    · simp
    · obtain ⟨q, qs, cut⟩ := List.exists_cons_of_ne_nil ih
      simp [cut]

theorem splitSegments_slash (special : Bool) (r : List Char) :
    splitSegments special ('/' :: r) = [] :: splitSegments special r := by
  simp [splitSegments, isSlash]

/-- At a slash two paths meet. -/
theorem splitSegments_append_slash (special : Bool) (a r : List Char) :
    splitSegments special (a ++ '/' :: r) = splitSegments special a ++ splitSegments special r := by
  induction a with
  | nil => exact splitSegments_slash special r
  | cons c a ih =>
    rw [List.cons_append, splitSegments, splitSegments, ih]
    split
    · rfl
    · obtain ⟨q, qs, cut⟩ := List.exists_cons_of_ne_nil (splitSegments_ne_nil special a)
      simp [cut]

theorem splitSegments_eq_singleton (whole : ∀ c ∈ s, isSlash special c = false) : splitSegments special s = [s] := by
  induction s with
  | nil => rfl
  | cons c r ih =>
    rw [List.forall_mem_cons] at whole
    rw [splitSegments, ih whole.2]
    simp [whole.1]

/-- Segments joined by slashes are cut again into these. -/
theorem splitSegments_joined (first : ∀ c ∈ p, isSlash special c = false)
    (others : ∀ q ∈ ps, ∀ c ∈ q, isSlash special c = false) :
    splitSegments special (p ++ ps.flatMap ('/' :: ·)) = p :: ps := by
  induction ps generalizing p with
  | nil => simpa using splitSegments_eq_singleton first
  | cons q ps ih =>
    rw [List.forall_mem_cons] at others
    rw [List.flatMap_cons, List.cons_append, splitSegments_append_slash, splitSegments_eq_singleton first,
      ih others.1 others.2, List.singleton_append]

theorem isSlash_of_mem_splitSegments (mem : p ∈ splitSegments special s) : ∀ c ∈ p, isSlash special c = false := by
  induction s generalizing p with
  | nil =>
    obtain rfl : p = [] := by simpa [splitSegments] using mem
    simp
  | cons c r ih =>
    rw [splitSegments] at mem
    split at mem
    · rcases List.mem_cons.1 mem with rfl | later
      · simp
      · exact ih later
    · next inside =>
      obtain ⟨q, qs, cut⟩ := List.exists_cons_of_ne_nil (splitSegments_ne_nil special r)
      rw [cut] at ih mem
      rcases List.mem_cons.1 mem with rfl | later
      · exact List.forall_mem_cons.2 ⟨by simpa using inside, ih List.mem_cons_self⟩
      · exact ih (List.mem_cons_of_mem q later)

theorem length_splitSegments (special : Bool) (s : List Char) :
    (splitSegments special s).length = s.countP (isSlash special) + 1 := by
  induction s with
  | nil => rfl
  | cons c r ih =>
    rw [splitSegments]
    split
    · next slash => rw [List.length_cons, ih, List.countP_cons_of_pos slash]
    · next inside => rw [List.length_modifyHead, ih, List.countP_cons_of_neg inside]

/-- A path is determined by its segments, in which there are no slashes. -/
theorem segments_inj {qs : List (List Char)} (psUnslashed : ∀ p ∈ ps, '/' ∉ p) (qsUnslashed : ∀ q ∈ qs, '/' ∉ q)
    (same : ps.flatMap ('/' :: ·) = qs.flatMap ('/' :: ·)) : ps = qs := by
  have whole : ∀ rs : List (List Char), (∀ r ∈ rs, '/' ∉ r) →
      splitSegments false (rs.flatMap ('/' :: ·)) = [] :: rs := by
    intro rs absent
    refine splitSegments_joined (p := []) (by simp) fun q mem c within => ?_
    have other : c ≠ '/' := by
      rintro rfl
      exact absent q mem within
    simp [isSlash, other]
  have cut := whole ps psUnslashed
  rw [same, whole qs qsUnslashed] at cut
  exact (List.cons.inj cut).2.symm

/-! ### Dots -/

/-- A segment that is added as it is. -/
def Ordinary (segment : List Char) : Prop :=
  isDot segment = false ∧ isDoubleDot segment = false

theorem isDot_iff : isDot s = true ↔ s.map Char.toLower = ['.'] ∨ s.map Char.toLower = ['%', '2', 'e'] := by
  simp [isDot, ← String.toList_inj]

theorem isDoubleDot_iff : isDoubleDot s = true ↔ s.map Char.toLower = ['.', '.'] ∨
    s.map Char.toLower = ['.', '%', '2', 'e'] ∨ s.map Char.toLower = ['%', '2', 'e', '.'] ∨
      s.map Char.toLower = ['%', '2', 'e', '%', '2', 'e'] := by
  simp [isDoubleDot, ← String.toList_inj]

/-- Letters aside, a character is in lower case what it is. -/
theorem eq_of_toLower {c d : Char} (same : c.toLower = d) (other : d.isAlpha = false) : c = d := by
  subst same
  by_cases ascii : isAscii c = true
  · exact ascii_induction (motive := fun c => c.toLower.isAlpha = false → c = c.toLower) (by decide +kernel) ascii other
  · rw [toLower_of_not_ascii (by simpa using ascii)]

theorem hexValue?_of_toLower {c d : Char} (same : c.toLower = d) (digit : (hexValue? d).isSome) :
    (hexValue? c).isSome := by
  subst same
  by_cases ascii : isAscii c = true
  · exact ascii_induction (motive := fun c => (hexValue? c.toLower).isSome → (hexValue? c).isSome) (by decide +kernel)
      ascii digit
  · rwa [toLower_of_not_ascii (by simpa using ascii)] at digit

/-- What is an escape in lower case is one. -/
theorem hasEscape_of_toLower (escape : HasEscape (s.map Char.toLower)) : HasEscape s := by
  obtain ⟨a, b, first, second, x, y, occurs⟩ := escape
  rw [List.append_assoc] at occurs
  obtain ⟨front, rest, rfl, -, written⟩ := List.map_eq_append_iff.1 occurs.symm
  obtain ⟨sign, rest, rfl, percent, written⟩ := List.map_eq_cons_iff.1 written
  obtain ⟨a', rest, rfl, high, written⟩ := List.map_eq_cons_iff.1 written
  obtain ⟨b', rest, rfl, low, -⟩ := List.map_eq_cons_iff.1 written
  obtain rfl := eq_of_toLower percent rfl
  exact ⟨a', b', hexValue?_of_toLower high first, hexValue?_of_toLower low second, front, rest, by simp⟩

theorem hasEscape_lower (front back : List Char) : HasEscape (front ++ '%' :: '2' :: 'e' :: back) :=
  ⟨'2', 'e', rfl, rfl, front, back, by simp⟩

/-- Without escapes a segment is a dot only as it is written. -/
theorem ordinary_iff (spelled : ¬ HasEscape s) : Ordinary s ↔ s ≠ ['.'] ∧ s ≠ ['.', '.'] := by
  have escaped : ∀ front back, s.map Char.toLower ≠ front ++ '%' :: '2' :: 'e' :: back := by
    intro front back same
    exact spelled (hasEscape_of_toLower (same ▸ hasEscape_lower front back))
  have single : s.map Char.toLower = ['.'] ↔ s = ['.'] := by
    refine ⟨fun same => ?_, fun e => by rw [e]; rfl⟩
    obtain ⟨c, rfl, dot⟩ := List.map_eq_singleton_iff.1 same
    rw [(toLower_eq_stop_iff c).1 dot]
  have double : s.map Char.toLower = ['.', '.'] ↔ s = ['.', '.'] := by
    refine ⟨fun same => ?_, fun e => by rw [e]; rfl⟩
    obtain ⟨c, rest, rfl, dot, tail⟩ := List.map_eq_cons_iff.1 same
    obtain ⟨d, rfl, dot'⟩ := List.map_eq_singleton_iff.1 tail
    rw [(toLower_eq_stop_iff c).1 dot, (toLower_eq_stop_iff d).1 dot']
  have dot : isDot s = true ↔ s = ['.'] := by
    rw [isDot_iff, single]
    exact or_iff_left (escaped [] [])
  have doubleDot : isDoubleDot s = true ↔ s = ['.', '.'] := by
    rw [isDoubleDot_iff, double, or_iff_left]
    rintro (first | second | both)
    · exact escaped ['.'] [] first
    · exact escaped [] ['.'] second
    · exact escaped [] ['%', '2', 'e'] both
  rw [Ordinary, ← Bool.not_eq_true, ← Bool.not_eq_true, dot, doubleDot]

/-! ### Resolving -/

/-- What is left, last to first, of the segments before and of those of a path that goes on. -/
def walked (before : List (List Char)) : List (List Char) → List (List Char)
  | [] => before
  | segment :: rest =>
    if isDoubleDot segment then walked (shorten before) rest
    else if isDot segment then walked before rest
    else walked (percentEncode pathSet segment :: before) rest

/-- The segments of a path that goes on are resolved by themselves. -/
theorem resolveSegments_append (more : ys ≠ []) :
    resolveSegments before (xs ++ ys) = resolveSegments (walked before xs) ys := by
  induction xs generalizing before with
  | nil => rfl
  | cons segment rest ih =>
    have inner : (rest ++ ys).isEmpty = false := by simp [more]
    rw [List.cons_append, resolveSegments, walked, inner]
    split
    · exact ih
    · split
      · exact ih
      · exact ih

theorem resolveSegments_ordinary (ordinary : ∀ segment ∈ segments, Ordinary segment) :
    resolveSegments before segments = before.reverse ++ segments.map (percentEncode pathSet) := by
  induction segments generalizing before with
  | nil => simp [resolveSegments]
  | cons segment rest ih =>
    rw [List.forall_mem_cons] at ordinary
    rw [resolveSegments, ordinary.1.2, ordinary.1.1]
    simp [ih ordinary.2]

/-- At its end a path may be left with empty segments. -/
theorem exists_resolveSegments_eq (before xs : List (List Char)) (k : Nat) :
    ∃ n, resolveSegments before (xs ++ List.replicate k []) = (walked before xs).reverse ++ List.replicate n [] := by
  cases k with
  | succ k =>
    refine ⟨k + 1, ?_⟩
    have empty : ∀ segment ∈ List.replicate (k + 1) ([] : List Char), Ordinary segment := by
      intro segment mem
      rw [List.eq_of_mem_replicate mem]
      exact ⟨rfl, rfl⟩
    have nothing : percentEncode pathSet [] = [] := rfl
    rw [resolveSegments_append (by simp), resolveSegments_ordinary empty, List.map_replicate, nothing]
  | zero =>
    rw [List.replicate_zero, List.append_nil]
    induction xs generalizing before with
    | nil => exact ⟨0, by simp [resolveSegments, walked]⟩
    | cons segment rest ih =>
      rw [resolveSegments, walked]
      split
      · cases rest with
        | nil => exact ⟨1, by simp [resolveSegments, walked]⟩
        | cons => exact ih _
      · split
        · cases rest with
          | nil => exact ⟨1, by simp [resolveSegments, walked]⟩
          | cons => exact ih _
        · exact ih _

theorem mem_of_mem_shorten (mem : p ∈ shorten before) : p ∈ before := by
  unfold shorten at mem
  split at mem
  · exact mem
  · split at mem
    · exact mem
    · exact List.mem_cons_of_mem _ mem

/-- Resolving does not bring slashes into segments. -/
theorem slash_not_mem_walked (unslashed : ∀ p ∈ before, '/' ∉ p) (xsUnslashed : ∀ p ∈ xs, '/' ∉ p) :
    ∀ p ∈ walked before xs, '/' ∉ p := by
  induction xs generalizing before with
  | nil => exact unslashed
  | cons segment rest ih =>
    rw [List.forall_mem_cons] at xsUnslashed
    rw [walked]
    split
    · exact ih (fun p mem => unslashed p (mem_of_mem_shorten mem)) xsUnslashed.2
    · split
      · exact ih unslashed xsUnslashed.2
      · exact ih (List.forall_mem_cons.2 ⟨slash_not_mem_percentEncode xsUnslashed.1, unslashed⟩) xsUnslashed.2

theorem slash_not_mem_resolveSegments (unslashed : ∀ p ∈ before, '/' ∉ p) (bare : ∀ p ∈ segments, '/' ∉ p) :
    ∀ p ∈ resolveSegments before segments, '/' ∉ p := by
  obtain ⟨n, resolved⟩ := exists_resolveSegments_eq before segments 0
  rw [List.replicate_zero, List.append_nil] at resolved
  intro p mem
  rw [resolved, List.mem_append, List.mem_reverse, List.mem_replicate] at mem
  rcases mem with walks | ⟨-, rfl⟩
  · exact slash_not_mem_walked unslashed bare p walks
  · simp

/-! ### What a path decodes to -/

/-- How many bytes a text takes. -/
def size (s : List Char) : Nat :=
  (s.flatMap String.utf8EncodeChar).length

/-- How many bytes segments decode to, with a slash in front of each. -/
def weight : List (List Char) → Nat
  | [] => 0
  | p :: ps => 1 + (percentDecode p).length + weight ps

@[simp] theorem size_cons (c : Char) (s : List Char) : size (c :: s) = c.utf8Size + size s := by
  simp [size]

@[simp] theorem size_append (a s : List Char) : size (a ++ s) = size a + size s := by
  simp [size]

@[simp] theorem weight_cons (p : List Char) (ps : List (List Char)) :
    weight (p :: ps) = 1 + (percentDecode p).length + weight ps := rfl

@[simp] theorem weight_append (ps qs : List (List Char)) : weight (ps ++ qs) = weight ps + weight qs := by
  induction ps with
  | nil => simp [weight]
  | cons p ps ih =>
    rw [List.cons_append, weight_cons, weight_cons, ih]
    omega

@[simp] theorem weight_reverse (ps : List (List Char)) : weight ps.reverse = weight ps := by
  induction ps with
  | nil => rfl
  | cons p ps ih =>
    rw [List.reverse_cons, weight_append, ih, weight_cons, weight_cons, weight]
    omega

theorem weight_shorten_le (before : List (List Char)) : weight (shorten before) ≤ weight before := by
  unfold shorten
  split
  · exact Nat.le_refl _
  · split
    · exact Nat.le_refl _
    · rw [weight_cons]
      omega

/-- A dot at the end leaves no more than a slash. -/
theorem weight_ending_le (last : Bool) (kept : List (List Char)) :
    weight (if last then [] :: kept else kept) ≤ weight kept + 1 := by
  cases last with
  | false => simp
  | true =>
    have empty : (percentDecode []).length = 0 := rfl
    simp only [if_true, weight_cons, empty]
    omega

/-- The bytes of segments, with a slash in front of each. -/
def load : List (List Char) → Nat
  | [] => 0
  | p :: ps => 1 + size p + load ps

@[simp] theorem load_cons (p : List Char) (ps : List (List Char)) : load (p :: ps) = 1 + size p + load ps := rfl

theorem size_le_of_sublist (part : a.Sublist s) : size a ≤ size s := by
  induction part with
  | slnil => exact Nat.le_refl _
  | cons c part ih =>
    rw [size_cons]
    omega
  | cons_cons c part ih =>
    rw [size_cons, size_cons]
    omega

/-- A part of a text that takes as many bytes is all of it. -/
theorem eq_of_sublist_of_size (part : a.Sublist s) (large : size s ≤ size a) : a = s := by
  induction part with
  | slnil => rfl
  | @cons a s c part ih =>
    have byte := c.utf8Size_pos
    have fewer : size a ≤ size s := size_le_of_sublist part
    rw [size_cons] at large
    omega
  | @cons_cons a s c part ih =>
    rw [size_cons, size_cons] at large
    rw [ih (by omega)]

theorem size_flatMap (ps : List (List Char)) : size (ps.flatMap ('/' :: ·)) = load ps := by
  have slash : '/'.utf8Size = 1 := rfl
  induction ps with
  | nil => rfl
  | cons p ps ih => rw [List.flatMap_cons, size_append, size_cons, ih, load_cons, slash]

theorem load_splitSegments (special : Bool) (s : List Char) : load (splitSegments special s) = 1 + size s := by
  induction s with
  | nil => rfl
  | cons c r ih =>
    rw [splitSegments]
    split
    · next slash =>
      have one : c.utf8Size = 1 := by
        have either : c = '/' ∨ special = true ∧ c = '\\' := by simpa [isSlash] using slash
        rcases either with rfl | ⟨-, rfl⟩
        · rfl
        · rfl
      rw [load_cons, ih, size_cons, one]
      rfl
    · obtain ⟨q, qs, cut⟩ := List.exists_cons_of_ne_nil (splitSegments_ne_nil special r)
      rw [cut, load_cons] at ih
      simp only [cut, List.modifyHead_cons, load_cons, size_cons]
      omega

/-- What resolving cannot lose: the segment is added, and it decodes to all of its bytes. -/
def Lasting (segment : List Char) : Prop :=
  Ordinary segment ∧ ¬ HasEscape segment

theorem size_pos_of_dot (dot : ¬ Ordinary s) : 0 < size s := by
  cases s with
  | nil => exact absurd ⟨rfl, rfl⟩ dot
  | cons c r =>
    have byte := c.utf8Size_pos
    rw [size_cons]
    omega

/-- **Resolving loses weight** with each segment that does not last, and gains none. -/
theorem weight_resolveSegments (before segments : List (List Char)) :
    weight (resolveSegments before segments) ≤ weight before + load segments ∧
      (weight (resolveSegments before segments) = weight before + load segments →
        ∀ segment ∈ segments, Lasting segment) := by
  induction segments generalizing before with
  | nil => simp [resolveSegments, load]
  | cons segment rest ih =>
    have dotted : ∀ kept : List (List Char), weight kept ≤ weight before + 1 → ¬ Ordinary segment →
        weight (resolveSegments kept rest) < weight before + load (segment :: rest) := by
      intro kept small dot
      have later := (ih kept).1
      have positive := size_pos_of_dot dot
      rw [load_cons]
      omega
    have shorter := weight_shorten_le before
    rw [resolveSegments]
    by_cases double : isDoubleDot segment = true
    · have ending := Nat.le_trans (weight_ending_le rest.isEmpty (shorten before)) (Nat.succ_le_succ shorter)
      have lost := dotted _ ending (by simp [Ordinary, double])
      rw [if_pos double]
      exact ⟨Nat.le_of_lt lost, fun same => absurd same (Nat.ne_of_lt lost)⟩
    · by_cases dot : isDot segment = true
      · have lost := dotted _ (weight_ending_le rest.isEmpty before) (by simp [Ordinary, dot])
        rw [if_neg double, if_pos dot]
        exact ⟨Nat.le_of_lt lost, fun same => absurd same (Nat.ne_of_lt lost)⟩
      · rw [if_neg double, if_neg dot]
        obtain ⟨bound, equal⟩ := ih (percentEncode pathSet segment :: before)
        have decoded : (percentDecode segment).length ≤ size segment := length_percentDecode_le segment
        rw [weight_cons, percentDecode_percentEncode spares_pathSet] at bound equal
        rw [load_cons]
        refine ⟨by omega, fun same => List.forall_mem_cons.2 ⟨⟨⟨by simpa using dot, by simpa using double⟩, ?_⟩, ?_⟩⟩
        · intro escape
          have lost : (percentDecode segment).length < size segment := length_percentDecode_lt escape
          omega
        · exact equal (by omega)

end Lookout.Url
