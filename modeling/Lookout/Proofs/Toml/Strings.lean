import Lookout.Toml.Token
import Lookout.Toml.Writer

/-!
# TOML strings read back

In whichever of the four styles a string is written, it is read as itself, and what follows it is left. Between double
quotes each character is written plainly or by an escape, both of which are read as the character. A quote of the
string never closes it: between single double quotes it is escaped, and over several lines three quotes in a row are
the closing ones, before which up to two more belong to the string.
-/

namespace Lookout.Toml
set_option autoImplicit false

variable {c : Char} {s rest : List Char}

theorem isText_of_not_isControl (shown : isControl c = false) (feed : c ≠ '\n') : isText c = true := by
  simp only [isControl, Bool.or_eq_false_iff, Bool.and_eq_false_iff, decide_eq_false_iff_not, bne_eq_false_iff_eq,
    beq_eq_false_iff_ne] at shown
  obtain ⟨(low | rfl) | rfl, delete⟩ := shown
  · simp [isText, Char.not_lt.1 low, delete]
  · rfl
  · exact absurd rfl feed

/-- The ways in which a character is written between double quotes, quotes apart. -/
inductive Escaped (lines : Bool) (c : Char) : List Char → Prop
  | short {letter : Char} (named : unicodeDigits? letter = none) (stands : shortEscape? letter = some c) :
      Escaped lines c ['\\', letter]
  | control (ascii : c.toNat < 128) :
      Escaped lines c ['\\', 'u', '0', '0', hexDigit (c.toNat / 16), hexDigit (c.toNat % 16)]
  | plain (quote : c ≠ '"') (backslash : c ≠ '\\') (carriage : c ≠ '\r')
      (shown : isText c = true ∨ lines = true ∧ c = '\n') : Escaped lines c [c]

theorem escaped_escapeChar (lines : Bool) (quote : c ≠ '"') : Escaped lines c (escapeChar lines c) := by
  by_cases feed : c = '\n'
  · subst feed
    cases lines
    · exact @Escaped.short _ _ 'n' rfl rfl
    · exact .plain (by decide) (by decide) (by decide) (.inr ⟨rfl, rfl⟩)
  by_cases special : c ∈ ['\\', '\t', '\x08', '\x0C', '\r']
  · simp only [List.mem_cons, List.not_mem_nil, or_false] at special
    rcases special with rfl | rfl | rfl | rfl | rfl
    · exact @Escaped.short _ _ '\\' rfl rfl
    · exact @Escaped.short _ _ 't' rfl rfl
    · exact @Escaped.short _ _ 'b' rfl rfl
    · exact @Escaped.short _ _ 'f' rfl rfl
    · exact @Escaped.short _ _ 'r' rfl rfl
  · simp only [List.mem_cons, List.not_mem_nil, or_false, not_or] at special
    obtain ⟨backslash, tab, h8, hC, carriage⟩ := special
    simp only [escapeChar, if_neg backslash, if_neg tab, if_neg feed, if_neg h8, if_neg hC, if_neg carriage]
    cases shown : isControl c with
    | false => exact .plain quote backslash carriage (.inl (isText_of_not_isControl shown feed))
    | true =>
      refine .control ?_
      simp only [isControl, Bool.or_eq_true, Bool.and_eq_true, decide_eq_true_eq, beq_iff_eq] at shown
      rcases shown with ⟨⟨low, -⟩, -⟩ | delete
      · have : c.toNat < 32 := low
        omega
      · omega

theorem charOf?_toNat (c : Char) : charOf? c.toNat = some c := by
  have valid : c.toNat.isValidChar := c.valid
  rw [charOf?, dif_pos valid]
  rfl

theorem hexValue?_hexDigit : ∀ d < 16, Url.hexValue? (hexDigit d) = some d := by
  decide

theorem readBasic_escaped {t : List Char} (escaped : Escaped false c t) (leaveOut : Bool) (rest : List Char) :
    readBasic (.plain leaveOut) (t ++ rest) = prepend c (readBasic (.plain false) rest) := by
  cases escaped with
  | short named stands => simp [readBasic, named, stands]
  | control ascii =>
    have high := hexValue?_hexDigit (c.toNat / 16) (by omega)
    have low := hexValue?_hexDigit (c.toNat % 16) (by omega)
    have zero : Url.hexValue? '0' = some 0 := rfl
    simp [readBasic, unicodeDigits?, high, low, zero, Nat.div_add_mod', charOf?_toNat]
  | plain quote backslash carriage shown =>
    have shown : isText c = true := by simpa using shown
    simp [readBasic, quote, backslash, shown]

theorem readBasicLines_escaped {t : List Char} (escaped : Escaped true c t) (rest : List Char) :
    readBasicLines (.plain false) (t ++ rest) = prepend c (readBasicLines (.plain false) rest) := by
  cases escaped with
  | short named stands => simp [readBasicLines, named, stands]
  | control ascii =>
    have high := hexValue?_hexDigit (c.toNat / 16) (by omega)
    have low := hexValue?_hexDigit (c.toNat % 16) (by omega)
    have zero : Url.hexValue? '0' = some 0 := rfl
    simp [readBasicLines, unicodeDigits?, high, low, zero, Nat.div_add_mod', charOf?_toNat]
  | plain quote backslash carriage shown =>
    have shown : isText c = true ∨ c = '\n' := by simpa using shown
    simp [readBasicLines, quote, backslash, carriage, shown]

theorem readBasic_written (s : List Char) (run : Nat) (leaveOut : Bool) (rest : List Char) :
    readBasic (.plain leaveOut) (escaped false run s ++ '"' :: rest) = some (s, rest) := by
  induction s generalizing run leaveOut with
  | nil => simp [escaped, readBasic]
  | cons c s ih =>
    by_cases quote : c = '"'
    · subst quote
      have escape := readBasic_escaped (@Escaped.short _ _ '"' rfl rfl) leaveOut (escaped false 0 s ++ '"' :: rest)
      simpa [escaped, ih, prepend] using escape
    · rw [escaped, if_neg quote, List.append_assoc, readBasic_escaped (escaped_escapeChar false quote), ih]
      rfl

theorem quotesFollow_eq_true {quote : Char} (follow : quotesFollow quote s = true) :
    ∃ r, s = quote :: quote :: r := by
  unfold quotesFollow at follow
  split at follow
  · next a b r =>
    simp only [Bool.and_eq_true, decide_eq_true_eq] at follow
    exact ⟨r, by rw [follow.1, follow.2]⟩
  · cases follow

theorem quotesFollow_eq_false {quote : Char} (few : ∀ r, s ≠ quote :: quote :: r) : quotesFollow quote s = false := by
  cases follow : quotesFollow quote s with
  | false => rfl
  | true =>
    obtain ⟨r, shape⟩ := quotesFollow_eq_true follow
    exact absurd shape (few r)

theorem closing_none {quote : Char} (other : rest.head? ≠ some quote) : closing quote rest = ([], rest) := by
  unfold closing
  split
  · next a b r =>
    have first : a ≠ quote := by simpa using other
    simp [first]
  · next a =>
    have first : a ≠ quote := by simpa using other
    simp [first]
  · rfl

theorem closing_one {quote : Char} (other : rest.head? ≠ some quote) :
    closing quote (quote :: rest) = ([quote], rest) := by
  cases rest with
  | nil => simp [closing]
  | cons b r =>
    have second : b ≠ quote := by simpa using other
    simp [closing, second]

theorem closing_two (quote : Char) (rest : List Char) :
    closing quote (quote :: quote :: rest) = ([quote, quote], rest) := by
  simp [closing]

theorem Escaped.head {lines : Bool} {t : List Char} (escaped : Escaped lines c t) :
    ∃ d r, t = d :: r ∧ d ≠ '"' ∧ d ≠ '\r' ∧ (d = '\n' → c = '\n') := by
  cases escaped with
  | short | control => exact ⟨'\\', _, rfl, by decide, by decide, fun same => absurd same (by decide)⟩
  | plain quote _ carriage _ => exact ⟨c, [], rfl, quote, carriage, id⟩

/-- What is escaped does not begin with a quote, unless it is one that needs no escape. -/
theorem escaped_head {lines : Bool} {run : Nat} (s : List Char) (long : c = '"' → lines = true → 2 ≤ run) :
    ∃ d r, escaped lines run (c :: s) = d :: r ∧ d ≠ '"' ∧ d ≠ '\r' ∧ (d = '\n' → c = '\n') := by
  by_cases quote : c = '"'
  · have full : ¬ (lines && decide (run < 2)) = true := by
      simp only [Bool.and_eq_true, decide_eq_true_eq, not_and, Nat.not_lt]
      exact long quote
    rw [escaped, if_pos quote, if_neg full]
    exact ⟨'\\', _, rfl, by decide, by decide, fun same => absurd same (by decide)⟩
  · obtain ⟨d, r, shape, head⟩ := (escaped_escapeChar lines quote).head
    rw [escaped, if_neg quote, shape]
    exact ⟨d, r ++ escaped lines 0 s, rfl, head⟩

theorem escaped_quote {run : Nat} (short : run < 2) (s : List Char) :
    escaped true run ('"' :: s) = '"' :: escaped true (run + 1) s := by
  simp [escaped, short]

/-- Two quotes after a quote are the first ones of the closing quotes, or there is one quote more before these. -/
theorem quotesFollow_escaped {run : Nat}
    (follow : quotesFollow '"' (escaped true (run + 1) s ++ '"' :: '"' :: '"' :: rest) = true) :
    s = [] ∨ s = ['"'] ∧ run = 0 := by
  obtain ⟨r, shape⟩ := quotesFollow_eq_true follow
  match s with
  | [] => exact .inl rfl
  | c :: s =>
    by_cases plain : c = '"' ∧ run = 0
    · obtain ⟨rfl, rfl⟩ := plain
      cases s with
      | nil => exact .inr ⟨rfl, rfl⟩
      | cons d s =>
        obtain ⟨e, t, head, other, -⟩ := @escaped_head d true 2 s (fun _ _ => Nat.le_refl 2)
        rw [escaped_quote (by decide), head] at shape
        exact absurd (List.cons.inj (List.cons.inj shape).2).1 other
    · have long : c = '"' → true = true → 2 ≤ run + 1 := by
        intro same _
        have : run ≠ 0 := fun zero => plain ⟨same, zero⟩
        omega
      obtain ⟨e, t, head, other, -⟩ := escaped_head s long
      rw [head] at shape
      exact absurd (List.cons.inj shape).1 other

theorem readBasicLines_written (s : List Char) (run : Nat) (other : rest.head? ≠ some '"') :
    readBasicLines (.plain false) (escaped true run s ++ '"' :: '"' :: '"' :: rest) = some (s, rest) := by
  induction s generalizing run with
  | nil => simp [escaped, readBasicLines, quotesFollow, closing_none other]
  | cons c s ih =>
    by_cases quote : c = '"'
    · subst quote
      by_cases short : run < 2
      · rw [escaped_quote short, List.cons_append]
        cases follow : quotesFollow '"' (escaped true (run + 1) s ++ '"' :: '"' :: '"' :: rest) with
        | false =>
          have step : isText '"' = true := rfl
          simp [readBasicLines, follow, step, ih, prepend]
        | true =>
          -- the string ends here, or after one more quote
          rcases quotesFollow_escaped follow with rfl | ⟨rfl, rfl⟩
          · simp [escaped, readBasicLines, quotesFollow, closing_one other]
          · simp [escaped, readBasicLines, quotesFollow, closing_two]
      · have escape := readBasicLines_escaped (@Escaped.short true _ '"' rfl rfl)
          (escaped true 0 s ++ '"' :: '"' :: '"' :: rest)
        simpa [escaped, short, ih, prepend] using escape
    · rw [escaped, if_neg quote, List.append_assoc, readBasicLines_escaped (escaped_escapeChar true quote), ih]
      rfl

theorem readLiteral_written (plain : ∀ c ∈ s, isText c = true ∧ c ≠ '\'') (rest : List Char) :
    readLiteral (s ++ '\'' :: rest) = some (s, rest) := by
  induction s with
  | nil => simp [readLiteral]
  | cons c s ih =>
    obtain ⟨shown, other⟩ := plain c List.mem_cons_self
    simp [readLiteral, other, shown, ih fun d mem => plain d (List.mem_cons_of_mem _ mem), prepend]

theorem le_longestRun (c : Char) (run longest : Nat) (s : List Char) : longest ≤ longestRun c run longest s := by
  induction s generalizing run longest with
  | nil => exact Nat.le_refl _
  | cons d s ih =>
    unfold longestRun
    split
    · exact Nat.le_trans (Nat.le_max_left _ _) (ih _ _)
    · exact ih _ _

theorem three_le_longestRun (c : Char) (run longest : Nat) (s : List Char) :
    3 ≤ longestRun c run longest (c :: c :: c :: s) := by
  simp only [longestRun, if_true]
  refine Nat.le_trans ?_ (le_longestRun c _ _ s)
  omega

theorem readLiteralLines_written {run longest : Nat} (shown : ∀ c ∈ s, isControl c = false)
    (short : longestRun '\'' run longest s ≤ 2) (other : rest.head? ≠ some '\'') :
    readLiteralLines (s ++ '\'' :: '\'' :: '\'' :: rest) = some (s, rest) := by
  induction s generalizing run longest with
  | nil => simp [readLiteralLines, quotesFollow, closing_none other]
  | cons c s ih =>
    have first := shown c List.mem_cons_self
    have later := fun d mem => shown d (List.mem_cons_of_mem c mem)
    by_cases quote : c = '\''
    · subst quote
      have fewer := short
      rw [longestRun, if_pos rfl] at fewer
      have read := ih later fewer
      cases follow : quotesFollow '\'' (s ++ '\'' :: '\'' :: '\'' :: rest) with
      | false =>
        have step : isText '\'' = true := rfl
        simp [readLiteralLines, follow, step, read, prepend]
      | true =>
        obtain ⟨r, shape⟩ := quotesFollow_eq_true follow
        match s with
        | [] => simp [readLiteralLines, quotesFollow, closing_one other]
        | [d] =>
          obtain rfl : d = '\'' := (List.cons.inj shape).1
          simp [readLiteralLines, quotesFollow, closing_two]
        | d :: e :: s =>
          -- this would be the third quote in a row
          obtain rfl : d = '\'' := (List.cons.inj shape).1
          obtain rfl : e = '\'' := (List.cons.inj (List.cons.inj shape).2).1
          have three := three_le_longestRun '\'' run longest s
          omega
    · rw [longestRun, if_neg quote] at short
      have read := ih later short
      have carriage : c ≠ '\r' := by
        rintro rfl
        cases first
      have text : isText c = true ∨ c = '\n' := by
        by_cases feed : c = '\n'
        · exact .inr feed
        · exact .inl (isText_of_not_isControl first feed)
      simp [readLiteralLines, quote, carriage, text, read, prepend]

theorem styleOf_eq_literal (style : styleOf s = .literal) :
    s.any isControl = false ∧ longestRun '\'' 0 0 s = 0 ∧ s.contains '\n' = false := by
  simp only [styleOf] at style
  split at style
  · cases style
  · split at style
    · next fits => simpa [and_assoc] using fits
    · split at style
      · cases style
      · split at style
        · cases style
        · split at style <;> cases style

theorem styleOf_eq_literalLines (style : styleOf s = .literalLines) :
    s.any isControl = false ∧ longestRun '\'' 0 0 s ≤ 2 := by
  simp only [styleOf] at style
  split at style
  · cases style
  · split at style
    · cases style
    · split at style
      · cases style
      · split at style
        · next fits => simpa using fits
        · split at style <;> cases style

theorem not_mem_of_longestRun {run longest : Nat} (clean : longestRun c run longest s = 0) : c ∉ s := by
  induction s generalizing run longest with
  | nil => exact List.not_mem_nil
  | cons d s ih =>
    rw [longestRun] at clean
    split at clean
    · have found := le_longestRun c (run + 1) (max longest (run + 1)) s
      omega
    · next other =>
      intro mem
      rcases List.mem_cons.1 mem with same | mem
      · exact other same.symm
      · exact ih clean mem

theorem withoutNewline_start (newline : Bool) (first : newline = false → ∃ d t, s = d :: t ∧ d ≠ '\n' ∧ d ≠ '\r') :
    withoutNewline ((if newline then ['\n'] else []) ++ s) = s := by
  cases newline with
  | true => rfl
  | false =>
    obtain ⟨d, t, rfl, feed, carriage⟩ := first rfl
    have plain : afterNewline? (d :: t) = none := by
      unfold afterNewline?
      split
      · next same => exact absurd (List.cons.inj same).1 feed
      · next same => exact absurd (List.cons.inj same).1 carriage
      · rfl
    exact congrArg (Option.getD · (d :: t)) plain

theorem readString_basic (s : List Char) (double : rest.head? ≠ some '"') :
    readString '"' (escaped false 0 s ++ '"' :: rest) = some (s, rest) := by
  have alone : quotesFollow '"' (escaped false 0 s ++ '"' :: rest) = false := by
    refine quotesFollow_eq_false fun r shape => ?_
    cases s with
    | nil => exact double (congrArg List.head? (List.cons.inj shape).2)
    | cons c s =>
      obtain ⟨d, t, head, other, -⟩ := @escaped_head c false 0 s (fun _ lines => nomatch lines)
      rw [head] at shape
      exact other (List.cons.inj shape).1
  rw [readString, if_pos rfl, alone]
  exact readBasic_written s 0 false rest

theorem readString_literal (plain : ∀ c ∈ s, isControl c = false) (unbroken : '\n' ∉ s) (unquoted : '\'' ∉ s)
    (single : rest.head? ≠ some '\'') : readString '\'' (s ++ '\'' :: rest) = some (s, rest) := by
  have alone : quotesFollow '\'' (s ++ '\'' :: rest) = false := by
    refine quotesFollow_eq_false fun r shape => ?_
    cases s with
    | nil => exact single (congrArg List.head? (List.cons.inj shape).2)
    | cons c s => exact unquoted ((List.cons.inj shape).1 ▸ List.mem_cons_self)
  rw [readString, if_neg (by decide), alone]
  refine readLiteral_written (fun c mem => ⟨isText_of_not_isControl (plain c mem) ?_, ?_⟩) rest
  · rintro rfl
    exact unbroken mem
  · rintro rfl
    exact unquoted mem

theorem readString_basicLines (s : List Char) (double : rest.head? ≠ some '"') :
    readString '"' ('"' :: '"' :: ((if s.contains '\n' then ['\n'] else []) ++ (escaped true 0 s ++
      '"' :: '"' :: '"' :: rest))) = some (s, rest) := by
  have first : s.contains '\n' = false →
      ∃ d t, escaped true 0 s ++ '"' :: '"' :: '"' :: rest = d :: t ∧ d ≠ '\n' ∧ d ≠ '\r' := by
    intro unbroken
    cases s with
    | nil => exact ⟨'"', _, rfl, by decide, by decide⟩
    | cons c s =>
      by_cases quote : c = '"'
      · rw [quote, escaped_quote (by decide)]
        exact ⟨'"', _, rfl, by decide, by decide⟩
      · obtain ⟨d, t, head, -, carriage, same⟩ := @escaped_head c true 0 s (fun q => absurd q quote)
        rw [head]
        refine ⟨d, _, rfl, fun newline => ?_, carriage⟩
        simp [same newline] at unbroken
  have follow : ∀ r, quotesFollow '"' ('"' :: '"' :: r) = true := fun _ => rfl
  rw [readString, if_pos rfl, if_pos (follow _), List.drop_succ_cons, List.drop_succ_cons, List.drop_zero,
    withoutNewline_start _ first]
  exact readBasicLines_written s 0 double

theorem readString_literalLines (plain : ∀ c ∈ s, isControl c = false) (short : longestRun '\'' 0 0 s ≤ 2)
    (single : rest.head? ≠ some '\'') :
    readString '\'' ('\'' :: '\'' :: ((if s.contains '\n' then ['\n'] else []) ++ (s ++
      '\'' :: '\'' :: '\'' :: rest))) = some (s, rest) := by
  have first : s.contains '\n' = false →
      ∃ d t, s ++ '\'' :: '\'' :: '\'' :: rest = d :: t ∧ d ≠ '\n' ∧ d ≠ '\r' := by
    intro unbroken
    cases s with
    | nil => exact ⟨'\'', _, rfl, by decide, by decide⟩
    | cons c s =>
      refine ⟨c, _, rfl, ?_, ?_⟩
      · rintro rfl
        simp at unbroken
      · rintro rfl
        exact absurd (plain '\r' List.mem_cons_self) (by decide)
  have follow : ∀ r, quotesFollow '\'' ('\'' :: '\'' :: r) = true := fun _ => rfl
  rw [readString, if_neg (by decide), if_pos (follow _), List.drop_succ_cons, List.drop_succ_cons, List.drop_zero,
    withoutNewline_start _ first]
  exact readLiteralLines_written plain short single

/-- **A string reads back in every style.** In writing it begins with a quote. -/
theorem readString_written (s : String) (double : rest.head? ≠ some '"') (single : rest.head? ≠ some '\'') :
    ∃ quote body, (writeString s).toList = quote :: body ∧ (quote = '"' ∨ quote = '\'') ∧
      readString quote (body ++ rest) = some (s.toList, rest) := by
  rw [writeString, String.toList_ofList]
  have plain : s.toList.any isControl = false → ∀ c ∈ s.toList, isControl c = false :=
    fun shown c mem => by simpa using List.any_eq_false.1 shown c mem
  cases style : styleOf s.toList with
  | basic =>
    have read := readString_basic s.toList double
    exact ⟨'"', _, rfl, .inl rfl, by simpa [Style.isLines, Style.isBasic, Style.delimiter] using read⟩
  | literal =>
    obtain ⟨shown, clean, unbroken⟩ := styleOf_eq_literal style
    have read := readString_literal (plain shown) (by simpa using unbroken) (not_mem_of_longestRun clean) single
    exact ⟨'\'', _, rfl, .inr rfl, by simpa [Style.isLines, Style.isBasic, Style.delimiter] using read⟩
  | basicLines =>
    have read := readString_basicLines s.toList double
    exact ⟨'"', _, rfl, .inl rfl, by simpa [Style.isLines, Style.isBasic, Style.delimiter] using read⟩
  | literalLines =>
    obtain ⟨shown, short⟩ := styleOf_eq_literalLines style
    have read := readString_literalLines (plain shown) short single
    exact ⟨'\'', _, rfl, .inr rfl, by simpa [Style.isLines, Style.isBasic, Style.delimiter] using read⟩

end Lookout.Toml
