import Lookout.Url.Percent

/-!
# TOML tokens

Blanks, comments, strings and keys of a TOML document. Every reader takes the text from some place on and
gives what it read and the text that is left.
-/

namespace Lookout.Toml
set_option autoImplicit false

/-- Space and tab. -/
def isBlank (c : Char) : Bool :=
  c == ' ' || c == '\t'

/-- Characters that stand for themselves in strings and comments: all but control characters, and the
tab. -/
def isText (c : Char) : Bool :=
  c == '\t' || (' ' ≤ c && c.toNat != 0x7F)

def skipBlanks (s : List Char) : List Char :=
  s.dropWhile isBlank

/-- The text after the line feed, or carriage return and line feed, that it begins with. -/
def afterNewline? : List Char → Option (List Char)
  | '\n' :: r => some r
  | '\r' :: '\n' :: r => some r
  | _ => none

/-- The text after a comment, whose mark is already read. -/
def skipComment (s : List Char) : List Char :=
  s.dropWhile isText

/-- The text after the end of a line, before which blanks and a comment may stand. -/
def afterLine? (s : List Char) : Option (List Char) :=
  let s := skipBlanks s
  let s := match s with
    | '#' :: r => skipComment r
    | s => s
  if s.isEmpty then some [] else afterNewline? s

/-- Skips blanks, line ends and comments; none if a comment holds a control character. -/
def skipFiller (inComment : Bool) : List Char → Option (List Char)
  | [] => some []
  | c :: r =>
    if c = '\n' then skipFiller false r
    else if c = '\r' && r.head? == some '\n' then skipFiller inComment r
    else if inComment then if isText c then skipFiller true r else none
    else if c = '#' then skipFiller true r
    else if isBlank c then skipFiller false r
    else some (c :: r)

/-- The character that a backslash and this letter stand for. -/
def shortEscape? (c : Char) : Option Char :=
  match c with
  | 'b' => some '\x08'
  | 't' => some '\t'
  | 'n' => some '\n'
  | 'f' => some '\x0C'
  | 'r' => some '\r'
  | '"' => some '"'
  | '\\' => some '\\'
  | _ => none

/-- The character with a number; there is none for surrogates and beyond the last plane. -/
def charOf? (n : Nat) : Option Char :=
  if h : n.isValidChar then some (Char.ofNatAux n h) else none

/-- The number of digits after a backslash and this letter. -/
def unicodeDigits? (c : Char) : Option Nat :=
  if c = 'u' then some 4 else if c = 'U' then some 8 else none

/-- Where the reading of a string in double quotes stands. -/
inductive StringState where
  /-- Between characters; blanks and line ends are left out if they follow an escaped line end. -/
  | plain (leaveOut : Bool)
  /-- After a backslash. -/
  | escape
  /-- After a backslash and blanks that must be followed by a line end. -/
  | gap
  /-- Before `left + 1` digits of a number that is `value` so far. -/
  | unicode (left value : Nat)

/-- Puts a character in front of what is read next. -/
def prepend (c : Char) (next : Option (List Char × List Char)) : Option (List Char × List Char) :=
  next.map fun p => (c :: p.1, p.2)

/-- Reads a string on one line up to its closing double quote. -/
def readBasic : StringState → List Char → Option (List Char × List Char)
  | _, [] => none
  | .plain _, c :: r =>
    if c = '"' then some ([], r)
    else if c = '\\' then readBasic .escape r
    else if isText c then prepend c (readBasic (.plain false) r)
    else none
  | .escape, c :: r =>
    match unicodeDigits? c with
    | some n => readBasic (.unicode (n - 1) 0) r
    | none =>
      match shortEscape? c with
      | some e => prepend e (readBasic (.plain false) r)
      | none => none
  | .gap, _ => none
  | .unicode left value, c :: r =>
    match Url.hexValue? c, left with
    | none, _ => none
    | some d, left + 1 => readBasic (.unicode left (value * 16 + d)) r
    | some d, 0 =>
      match charOf? (value * 16 + d) with
      | some e => prepend e (readBasic (.plain false) r)
      | none => none

/-- What follows three closing quotes. Up to two more quotes belong to the string. -/
def closing (quote : Char) : List Char → List Char × List Char
  | a :: b :: r =>
    if a = quote && b = quote then ([quote, quote], r)
    else if a = quote then ([quote], b :: r)
    else ([], a :: b :: r)
  | [a] => if a = quote then ([quote], []) else ([], [a])
  | [] => ([], [])

/-- Whether two quotes follow. -/
def quotesFollow (quote : Char) : List Char → Bool
  | a :: b :: _ => a = quote && b = quote
  | _ => false

/-- Reads a string over several lines up to its three closing double quotes. -/
def readBasicLines : StringState → List Char → Option (List Char × List Char)
  | _, [] => none
  | .plain leaveOut, c :: r =>
    if leaveOut && (isBlank c || c = '\n') then readBasicLines (.plain true) r
    else if c = '\r' && r.head? == some '\n' then readBasicLines (.plain leaveOut) r
    else if c = '"' && quotesFollow '"' r then some (closing '"' (r.drop 2))
    else if c = '\\' then readBasicLines .escape r
    else if isText c || c = '\n' then prepend c (readBasicLines (.plain false) r)
    else none
  | .escape, c :: r =>
    match unicodeDigits? c with
    | some n => readBasicLines (.unicode (n - 1) 0) r
    | none =>
      match shortEscape? c with
      | some e => prepend e (readBasicLines (.plain false) r)
      | none =>
        if c = '\n' then readBasicLines (.plain true) r
        else if isBlank c || (c = '\r' && r.head? == some '\n') then readBasicLines .gap r
        else none
  | .gap, c :: r =>
    if c = '\n' then readBasicLines (.plain true) r
    else if isBlank c || (c = '\r' && r.head? == some '\n') then readBasicLines .gap r
    else none
  | .unicode left value, c :: r =>
    match Url.hexValue? c, left with
    | none, _ => none
    | some d, left + 1 => readBasicLines (.unicode left (value * 16 + d)) r
    | some d, 0 =>
      match charOf? (value * 16 + d) with
      | some e => prepend e (readBasicLines (.plain false) r)
      | none => none

/-- Reads a string on one line up to its closing single quote. -/
def readLiteral : List Char → Option (List Char × List Char)
  | [] => none
  | c :: r =>
    if c = '\'' then some ([], r) else if isText c then prepend c (readLiteral r) else none

/-- Reads a string over several lines up to its three closing single quotes. -/
def readLiteralLines : List Char → Option (List Char × List Char)
  | [] => none
  | c :: r =>
    if c = '\r' && r.head? == some '\n' then readLiteralLines r
    else if c = '\'' && quotesFollow '\'' r then some (closing '\'' (r.drop 2))
    else if isText c || c = '\n' then prepend c (readLiteralLines r)
    else none

/-- The text without the line end that it begins with, if it does. -/
def withoutNewline (s : List Char) : List Char :=
  (afterNewline? s).getD s

/-- Reads a string after its first quote. -/
def readString (quote : Char) (s : List Char) : Option (List Char × List Char) :=
  if quote = '"' then
    if quotesFollow '"' s then readBasicLines (.plain false) (withoutNewline (s.drop 2))
    else readBasic (.plain false) s
  else if quotesFollow '\'' s then readLiteralLines (withoutNewline (s.drop 2))
  else readLiteral s

/-- Characters of keys without quotes. -/
def isBareChar (c : Char) : Bool :=
  c.isAlphanum || c == '-' || c == '_'

/-- Reads one part of a key: a word, or a string on one line. -/
def readKeyPart (s : List Char) : Option (String × List Char) :=
  match s with
  | '"' :: r => (readBasic (.plain false) r).map fun p => (String.ofList p.1, p.2)
  | '\'' :: r => (readLiteral r).map fun p => (String.ofList p.1, p.2)
  | s =>
    match s.takeWhile isBareChar with
    | [] => none
    | word => some (String.ofList word, s.dropWhile isBareChar)

/-- The most parts that a key may have. -/
def maxKeyParts : Nat := 79

/-- Reads the parts of a key, at least one and at most `limit`, with dots between them. -/
def readKeyParts : (limit : Nat) → List Char → Option (List String × List Char)
  | 0, _ => none
  | limit + 1, s => do
    let (part, s) ← readKeyPart (skipBlanks s)
    match skipBlanks s with
    | '.' :: r => (readKeyParts limit r).map fun p => (part :: p.1, p.2)
    | s => return ([part], s)

/-- Reads a key: the parts before the last, and the last. -/
def readKey (s : List Char) : Option ((List String × String) × List Char) := do
  let (parts, s) ← readKeyParts maxKeyParts s
  return ((parts.dropLast, parts.getLast?.getD ""), s)

end Lookout.Toml
