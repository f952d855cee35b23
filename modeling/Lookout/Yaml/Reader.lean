import Lookout.Yaml.Node

/-!
# Reading YAML

A reader for documents of block and flow collections, plain, quoted and block scalars, anchors and
aliases, tags, and comments. Every character carries its column, by which block collections are told apart.
-/

namespace Lookout.Yaml
set_option autoImplicit false

/-- Characters with their columns. -/
abbrev Chars := List (Char × Nat)

/-- Numbers the characters of each line from `column` on. -/
def withColumns : Nat → List Char → Chars
  | _, [] => []
  | column, c :: r => (c, column) :: withColumns (if c == '\n' then 0 else column + 1) r

/-- The text with every line break as a line feed. -/
def unifyBreaks : List Char → List Char
  | [] => []
  | '\r' :: '\n' :: r => '\n' :: unifyBreaks r
  | c :: r => (if c == '\r' || c.toNat == 0x85 then '\n' else c) :: unifyBreaks r

/-- Whether a character may occur in a document. -/
def isPrintable (c : Char) : Bool :=
  let n := c.toNat
  n == 0x09 || n == 0x0A || n == 0x0D || (0x20 ≤ n && n ≤ 0x7E) || n == 0x85 ||
    (0xA0 ≤ n && n ≤ 0xD7FF) || (0xE000 ≤ n && n ≤ 0xFFFD && n != 0xFEFF) || 0x10000 ≤ n

def isSpace (c : Char) : Bool :=
  c == ' ' || c == '\t'

/-- Whether a token ends where the rest of the text is `s`. -/
def atBlank : Chars → Bool
  | [] => true
  | (c, _) :: _ => isSpace c || c == '\n'

/-- Skips blanks, comments and line breaks. The first part tells whether a line break was among them. In
a block no tab may stand in front of the first token of a line. -/
def skip (flow : Bool) : (comment fresh crossed : Bool) → Chars → Option (Bool × Chars)
  | _, _, crossed, [] => some (crossed, [])
  | comment, fresh, crossed, (c, k) :: r =>
    if c == '\n' then skip flow false true true r
    else if comment then skip flow true fresh crossed r
    else if c == ' ' then skip flow false fresh crossed r
    else if c == '\t' then if fresh && !flow then none else skip flow false fresh crossed r
    else if c == '#' then skip flow true fresh crossed r
    else some (crossed, (c, k) :: r)

/-- Skips what separates two tokens. -/
def next (flow : Bool) (s : Chars) : Option (Bool × Chars) :=
  skip flow false false false s

/-- Whether the text begins with a mark between documents. -/
def atMark (mark : Char) : Chars → Bool
  | (a, 0) :: (b, _) :: (c, _) :: r => a == mark && b == mark && c == mark && atBlank r
  | _ => false

/-- Whether a document ends here. -/
def atEnd (s : Chars) : Bool :=
  s.isEmpty || atMark '-' s || atMark '.' s

def isFlowIndicator (c : Char) : Bool :=
  ",[]\x7b\x7d".toList.contains c

/-- Whether a plain scalar may begin here. -/
def startsPlain (flow : Bool) : Chars → Bool
  | [] => false
  | (c, _) :: r =>
    if c == '-' || (!flow && (c == '?' || c == ':')) then
      !atBlank r && !(flow && r.head?.any fun p => isFlowIndicator p.1)
    else !("-?:,[]\x7b\x7d#&*!|>'\"%@\x60".toList.contains c || isSpace c || c == '\n')

/-- Whether a colon ends a key here. -/
def atColon (flow : Bool) : Chars → Bool
  | (':', _) :: r => atBlank r || (flow && r.head?.any fun p => isFlowIndicator p.1)
  | _ => false

/-- One line of a plain scalar and what follows it. -/
def plainLine (flow : Bool) : (blank : Bool) → Chars → List Char × Chars
  | _, [] => ([], [])
  | blank, (c, k) :: r =>
    if c == '\n' || (blank && c == '#') || atColon flow ((c, k) :: r) || (flow && isFlowIndicator c) then
      ([], (c, k) :: r)
    else (c :: (plainLine flow (isSpace c) r).1, (plainLine flow (isSpace c) r).2)

def trimEndSpaces (s : List Char) : List Char :=
  (s.reverse.dropWhile isSpace).reverse

/-- How many line breaks come first, and what follows them; blanks in lines that hold nothing else go. -/
def countBreaks : Nat → Chars → Nat × Chars
  | n, [] => (n, [])
  | n, (c, k) :: r =>
    if c == '\n' then countBreaks (n + 1) r
    else if isSpace c then
      match r.dropWhile (isSpace ·.1) with
      | ('\n', _) :: _ => countBreaks n r
      | [] => countBreaks n r
      | _ => (n, (c, k) :: r)
    else (n, (c, k) :: r)

/-- What some line breaks within a scalar stand for: one for a space, each further one for itself. -/
def folded (breaks : Nat) : List Char :=
  if breaks ≤ 1 then [' '] else List.replicate (breaks - 1) '\n'

/-- Further lines of a plain scalar: those whose first character stands at `floor` or beyond it. -/
def plainMore (flow : Bool) (floor : Nat) : Nat → Chars → Option (List Char × Chars)
  | 0, s => some ([], s)
  | fuel + 1, s =>
    let (breaks, after) := countBreaks 0 (s.dropWhile (isSpace ·.1))
    if breaks = 0 then some ([], s)
    else
      let indented := after.dropWhile (·.1 == ' ')
      match indented with
      | [] => some ([], s)
      | (c, k) :: _ =>
        if c == '#' || k < floor || atEnd indented || (flow && isFlowIndicator c) || atColon flow indented then
          some ([], s)
        else if c == '\t' && !flow then none
        else
          let (line, rest) := plainLine flow true indented
          if !flow && atColon flow rest then none
          else (plainMore flow floor fuel rest).map fun p => (folded breaks ++ trimEndSpaces line ++ p.1, p.2)

def hexValue? (c : Char) : Option Nat :=
  if c.isDigit then some (c.toNat - '0'.toNat)
  else if 'a' ≤ c && c ≤ 'f' then some (c.toNat - 'a'.toNat + 10)
  else if 'A' ≤ c && c ≤ 'F' then some (c.toNat - 'A'.toNat + 10)
  else none

/-- How many hexadecimal digits follow an escape letter. -/
def escapeLength? (c : Char) : Option Nat :=
  if c == 'x' then some 2 else if c == 'u' then some 4 else if c == 'U' then some 8 else none

/-- The character that an escape letter stands for. -/
def escapeChar? (c : Char) : Option Char :=
  [('0', Char.ofNat 0), ('a', Char.ofNat 7), ('b', Char.ofNat 8), ('t', '\t'), ('\t', '\t'), ('n', '\n'),
    ('v', Char.ofNat 11), ('f', Char.ofNat 12), ('r', '\r'), ('e', Char.ofNat 27), (' ', ' '), ('"', '"'),
    ('/', '/'), ('\\', '\\'), ('N', Char.ofNat 0x85), ('_', Char.ofNat 0xA0), ('L', Char.ofNat 0x2028),
    ('P', Char.ofNat 0x2029)].lookup c

/-- The text of a quoted scalar after its opening quote. Blanks around a line break are dropped, unless a
backslash keeps them. -/
def quotedText (quote : Char) : Nat → Chars → Option (List Char × Chars)
  | 0, _ => none
  | _, [] => none
  | fuel + 1, (c, k) :: r =>
    if atMark '-' ((c, k) :: r) || atMark '.' ((c, k) :: r) then none
    else if c == quote then
      match r with
      | (d, _) :: t =>
        if quote == '\'' && d == '\'' then (quotedText quote fuel t).map fun p => ('\'' :: p.1, p.2)
        else some ([], r)
      | [] => some ([], [])
    else if c == '\\' && quote == '"' then
      match r with
      | [] => none
      | (e, _) :: t =>
        if e == '\n' then quotedText quote fuel ((countBreaks 0 t).2.dropWhile (isSpace ·.1))
        else
          match escapeLength? e with
          | some n =>
            let digits := t.take n
            match digits.foldlM (fun v d => (hexValue? d.1).map (v * 16 + ·)) 0 with
            | some v =>
              if digits.length = n && v.isValidChar then
                (quotedText quote fuel (t.drop n)).map fun p => (Char.ofNat v :: p.1, p.2)
              else none
            | none => none
          | none =>
            match escapeChar? e with
            | some d => (quotedText quote fuel t).map fun p => (d :: p.1, p.2)
            | none => none
    else
      let run := ((c, k) :: r).dropWhile (isSpace ·.1)
      match run with
      | ('\n', _) :: _ =>
        let (breaks, after) := countBreaks 0 run
        (quotedText quote fuel (after.dropWhile (isSpace ·.1))).map fun p => (folded breaks ++ p.1, p.2)
      | _ => (quotedText quote fuel r).map fun p => (c :: p.1, p.2)

/-- A line and what follows its line break. -/
def takeLine (s : Chars) : List Char × Chars :=
  ((s.takeWhile (·.1 != '\n')).map (·.1), (s.dropWhile (·.1 != '\n')).drop 1)

/-- The lines of a block scalar that are indented to `indent`, without the indentation, and the rest.
Empty lines belong to it wherever they stand. -/
def blockLines (indent : Nat) : Nat → Chars → List (List Char) × Chars
  | 0, s => ([], s)
  | _, [] => ([], [])
  | fuel + 1, s =>
    let (line, rest) := takeLine s
    let blanks := line.takeWhile (· == ' ')
    if blanks.length = line.length && line.length ≤ indent then
      ([] :: (blockLines indent fuel rest).1, (blockLines indent fuel rest).2)
    else if blanks.length < indent then ([], s)
    else (line.drop indent :: (blockLines indent fuel rest).1, (blockLines indent fuel rest).2)

/-- The indentation of the first line of a block scalar that is not empty. -/
def blockIndent : Nat → Chars → Nat
  | 0, _ => 0
  | _, [] => 0
  | fuel + 1, s =>
    let (line, rest) := takeLine s
    let blanks := (line.takeWhile (· == ' ')).length
    if blanks = line.length then blockIndent fuel rest else blanks

/-- The lines of a folded block scalar put together. A line that begins with a blank is not folded. -/
def foldLines : List (List Char) → List Char
  | [] => []
  | [line] => line
  | line :: rest =>
    let plain (l : List Char) : Bool := !l.isEmpty && !(l.head?.any isSpace)
    match rest with
    | [] => line
    | second :: _ =>
      if plain line && plain second then line ++ ' ' :: foldLines rest
      else if plain line && second.isEmpty then
        let empties := rest.takeWhile List.isEmpty
        match rest.drop empties.length with
        | following :: _ =>
          if plain following then line ++ foldLines rest else line ++ '\n' :: foldLines rest
        | [] => line ++ '\n' :: foldLines rest
      else line ++ '\n' :: foldLines rest

/-- A block scalar after its `|` or `>`. It is indented further than `floor - 1`. -/
def blockScalar (literal : Bool) (floor : Nat) (s : Chars) : Option (List Char × Chars) :=
  let (header, rest) := takeLine s
  let marks := header.takeWhile fun c => !isSpace c
  let after := (header.drop marks.length).dropWhile isSpace
  if !after.isEmpty && after.head? != some '#' then none
  else if marks.length > 2 || !marks.all (fun c => c == '+' || c == '-' || ('1' ≤ c && c ≤ '9')) then none
  else
    let given := (marks.find? Char.isDigit).map fun c => c.toNat - '0'.toNat
    let indent := match given with
      | some n => floor - 1 + n
      | none => max floor (blockIndent s.length rest)
    let (lines, rest) := blockLines indent (s.length + 1) rest
    let trailing := (lines.reverse.takeWhile List.isEmpty).length
    let content := lines.take (lines.length - trailing)
    let body := if literal then List.intercalate ['\n'] content else foldLines content
    let ending :=
      if marks.contains '-' then []
      else if marks.contains '+' then List.replicate (trailing + if content.isEmpty then 0 else 1) '\n'
      else if content.isEmpty then [] else ['\n']
    some (body ++ ending, ('\n', 0) :: rest)

def isNameChar (c : Char) : Bool :=
  c.isAlphanum || c == '_' || c == '-'

/-- The name of an anchor or an alias. -/
def readName (s : Chars) : Option (String × Chars) :=
  let name := (s.takeWhile (isNameChar ·.1)).map (·.1)
  let rest := s.drop name.length
  let ended := atBlank rest || rest.head?.any fun p => "?:,]\x7d%@\x60".toList.contains p.1
  if !name.isEmpty && ended then some (String.ofList name, rest) else none

/-- What may stand in front of a node. -/
inductive Property where
  | anchor (name : String)
  | tag (uri : String)

/-- Whether a tag or an anchor comes here. -/
def isProperty (c : Char) : Bool :=
  c == '&' || c == '!'

/-- The tag of null. -/
def nullTag : String := "tag:yaml.org,2002:null"

/-- A node after its properties. A tag of one exclamation mark says nothing. -/
def Property.apply (n : Node) : Property → Node
  | anchor name => .anchored name n
  | tag uri => if uri = "!" then n else n.tagged (uri == nullTag)

/-- Characters of a tag. Brackets and commas belong to it only between angle brackets. -/
def isTagChar (delimited : Bool) (c : Char) : Bool :=
  isNameChar c || ";/?:@&=+$.!~*'()%".toList.contains c || (delimited && ",[]".toList.contains c)

/-- The longest run of characters of a tag, and the rest. -/
def tagChars (delimited : Bool) (s : Chars) : String × Chars :=
  (String.ofList ((s.takeWhile (isTagChar delimited ·.1)).map (·.1)), s.dropWhile (isTagChar delimited ·.1))

/-- A tag after its exclamation mark, with its shorthand written out. -/
def readTag (s : Chars) : Option (String × Chars) :=
  match s with
  | ('<', _) :: r =>
    match tagChars true r with
    | (uri, ('>', _) :: rest) => if uri.isEmpty then none else some (uri, rest)
    | _ => none
  | ('!', _) :: r =>
    let (suffix, rest) := tagChars false r
    if suffix.isEmpty then none else some ("tag:yaml.org,2002:" ++ suffix, rest)
  | _ =>
    let (suffix, rest) := tagChars false s
    let named := (suffix.toList.dropWhile isNameChar).head? == some '!'
    if named then none else some ("!" ++ suffix, rest)

/-- One property and the blanks after it. -/
def readProperty (flow : Bool) : Chars → Option (Property × Chars)
  | ('&', _) :: r => (readName r).map fun p => (.anchor p.1, p.2.dropWhile (isSpace ·.1))
  | ('!', _) :: r => do
    let (uri, rest) ← readTag r
    if atBlank rest || (flow && rest.head?.any (·.1 == ',')) then
      some (.tag uri, rest.dropWhile (isSpace ·.1))
    else none
  | _ => none

/-- The properties of a node as far as they stand on one line: an anchor and a tag, in either order. -/
def readProperties (flow : Bool) (s : Chars) : Option (List Property × Chars) := do
  match s with
  | (a, _) :: _ =>
    if !isProperty a then return ([], s)
    let (first, s) ← readProperty flow s
    match s with
    | (b, _) :: _ =>
      if !isProperty b then return ([first], s)
      if a == b then none
      let (second, s) ← readProperty flow s
      return ([first, second], s)
    | [] => return ([first], s)
  | [] => return ([], s)

/-- A node with its properties. -/
def described (properties : List Property) (n : Node) : Node :=
  properties.foldr (fun p n => p.apply n) n

/-- The most characters that a key may have if no question mark stands in front of it. -/
def maxKey : Nat := 1024

/-- Whether what is read between two places is short enough for a key, and on one line. -/
def isKeySpan (s rest : Chars) : Bool :=
  s.length - rest.length ≤ maxKey && !((s.take (s.length - rest.length)).any (·.1 == '\n'))

def isDash : Chars → Bool
  | ('-', _) :: r => atBlank r
  | _ => false

/-- Whether a question mark announces a key. -/
def isQuestion : Chars → Bool
  | ('?', _) :: r => atBlank r
  | _ => false

mutual

/-- A node inside a flow collection. -/
def readFlow (fuel : Nat) (s : Chars) : Option (Node × Chars) :=
  match fuel with
  | 0 => none
  | fuel + 1 => do
    match s with
    | [] => none
    | (c, _) :: r =>
      if isProperty c then
        let (properties, rest) ← readProperties true s
        let (_, rest) ← next true rest
        (readFlow fuel rest).map fun p => (described properties p.1, p.2)
      else if c == '*' then (readName r).map fun p => (.reference p.1, p.2)
      else if c == '[' then (readFlowItems fuel r).map fun p => (.sequence p.1, p.2)
      else if c == '\x7b' then (readFlowEntries fuel r).map fun p => (.mapping p.1, p.2)
      else if c == '"' || c == '\'' then
        (quotedText c (r.length + 1) r).map fun p => (.scalar .quoted (String.ofList p.1), p.2)
      else if isFlowIndicator c then some (.missing, s)
      else if startsPlain true s then
        let (line, rest) := plainLine true true s
        let (more, rest) ← plainMore true 0 rest.length rest
        some (.scalar .plain (String.ofList (trimEndSpaces line ++ more)), rest)
      else none

/-- A key, its colon and its value inside a flow collection, or a node by itself. The value is none where
there is no colon. A key without a question mark ends on the line where it began. -/
def readFlowPair (fuel : Nat) (s : Chars) : Option (Bool × Node × Option Node × Chars) :=
  match fuel with
  | 0 => none
  | fuel + 1 => do
    let asked := s.head?.any (·.1 == '?')
    let (_, start) ← if asked then next true (s.drop 1) else some (false, s)
    let (key, rest) ←
      if asked && start.head?.any (·.1 == ':') then some (Node.missing, start) else readFlow fuel start
    let (_, rest) ← next true rest
    match rest with
    | (':', _) :: r =>
      if !asked && !isKeySpan start rest then none
      let (_, r) ← next true r
      let (value, r) ← readFlow fuel r
      let (_, r) ← next true r
      return (asked, key, some value, r)
    | _ => return (asked, key, none, rest)

/-- The items of a flow sequence up to its closing bracket. A pair by itself is a mapping. -/
def readFlowItems (fuel : Nat) (s : Chars) : Option (List Node × Chars) :=
  match fuel with
  | 0 => none
  | fuel + 1 => do
    let (_, s) ← next true s
    match s with
    | (']', _) :: r => some ([], r)
    | _ =>
      let (asked, key, value, s) ← readFlowPair fuel s
      let item := if asked || value.isSome then Node.mapping [(key, value.getD .missing)] else key
      match s with
      | (',', _) :: r =>
        if item.isMissing then none
        else
          let (items, rest) ← readFlowItems fuel r
          some (item :: items, rest)
      | (']', _) :: r => some ([item], r)
      | _ => none

/-- The entries of a flow mapping up to its closing brace. -/
def readFlowEntries (fuel : Nat) (s : Chars) : Option (List (Node × Node) × Chars) :=
  match fuel with
  | 0 => none
  | fuel + 1 => do
    let (_, s) ← next true s
    match s with
    | ('\x7d', _) :: r => some ([], r)
    | _ =>
      let (asked, key, value, s) ← readFlowPair fuel s
      if !asked && value.isNone && key.isMissing then none
      match s with
      | (',', _) :: r =>
        let (entries, rest) ← readFlowEntries fuel r
        some ((key, value.getD .missing) :: entries, rest)
      | ('\x7d', _) :: r => some ([(key, value.getD .missing)], r)
      | _ => none

end

/-- An alias, a scalar or a flow collection by itself. A plain scalar before a colon ends with its line. -/
def readAtom (floor : Nat) (s : Chars) : Option (Node × Chars) :=
  match s with
  | [] => none
  | (c, _) :: r =>
    if c == '*' then (readName r).map fun p => (.reference p.1, p.2)
    else if c == '"' || c == '\'' then
      (quotedText c (r.length + 1) r).map fun p => (.scalar .quoted (String.ofList p.1), p.2)
    else if c == '[' || c == '\x7b' then readFlow (3 * s.length + 3) s
    else if startsPlain false s then
      let (line, rest) := plainLine false true s
      if atColon false rest then some (.scalar .plain (String.ofList (trimEndSpaces line)), rest)
      else
        (plainMore false floor rest.length rest).map fun p =>
          (.scalar .plain (String.ofList (trimEndSpaces line ++ p.1)), p.2)
    else none

/-- A key as far as the blanks after it, if a colon follows on its line. -/
def readKey? (floor : Nat) (s : Chars) : Option (Node × Chars) := do
  let (properties, t) ← readProperties false s
  let (atom, rest) ← if atColon false t then some (Node.missing, t) else readAtom floor t
  let rest := rest.dropWhile (isSpace ·.1)
  if isKeySpan s rest && atColon false rest && !(properties.isEmpty && atColon false t) then
    some (described properties atom, rest)
  else none

mutual

/-- What comes after an indicator: a node at `floor` or beyond it, or nothing. Collections may begin on
the same line if `fresh` says so. The dashes of a sequence may stand one column before `floor` if `dashes`
says so. -/
def readNode (fuel : Nat) (floor : Nat) (dashes fresh : Bool) (s : Chars) : Option (Node × Chars) :=
  match fuel with
  | 0 => none
  | fuel + 1 => do
    let (crossed, t) ← next false s
    let opens := fresh || crossed
    match t with
    | [] => some (.missing, s)
    | (c, column) :: r =>
      if atEnd t then some (.missing, s)
      else if crossed && column < floor then
        if dashes && column + 1 = floor && isDash t then
          (readItems fuel column t).map fun p => (.sequence p.1, p.2)
        else some (.missing, s)
      else if isDash t then
        if opens then (readItems fuel column t).map fun p => (.sequence p.1, p.2) else none
      else if c == '|' || c == '>' then
        (blockScalar (c == '|') floor r).map fun p => (.scalar .quoted (String.ofList p.1), p.2)
      else if isQuestion t || (readKey? floor t).isSome then
        if opens then (readEntries fuel column t).map fun p => (.mapping p.1, p.2) else none
      else if isProperty c then
        let (properties, rest) ← readProperties false t
        (readNode fuel floor dashes false rest).map fun p => (described properties p.1, p.2)
      else readAtom floor t

/-- A key and its value. A key after a question mark may be any node and lack a value. -/
def readPair (fuel : Nat) (column : Nat) (s : Chars) : Option (Node × Node × Chars) :=
  match fuel with
  | 0 => none
  | fuel + 1 => do
    if isQuestion s then
      let (key, rest) ← readNode fuel (column + 1) true true (s.drop 1)
      let (crossed, t) ← next false rest
      if crossed && t.head?.any (·.2 == column) && atColon false t then
        let (value, rest) ← readNode fuel (column + 1) true true (t.drop 1)
        return (key, value, rest)
      else return (key, .missing, rest)
    else
      let (key, rest) ← readKey? column s
      let (value, rest) ← readNode fuel (column + 1) true false (rest.drop 1)
      return (key, value, rest)

/-- The entries of a mapping whose keys stand at `column`. -/
def readEntries (fuel : Nat) (column : Nat) (s : Chars) : Option (List (Node × Node) × Chars) :=
  match fuel with
  | 0 => none
  | fuel + 1 => do
    let (key, value, s) ← readPair fuel column s
    let (crossed, t) ← next false s
    match t with
    | [] => some ([(key, value)], t)
    | (_, k) :: _ =>
      if atEnd t || k < column then if crossed then some ([(key, value)], s) else none
      else if !crossed || k != column then none
      else
        let (entries, rest) ← readEntries fuel column t
        some ((key, value) :: entries, rest)

/-- The items of a sequence whose dashes stand at `column`. -/
def readItems (fuel : Nat) (column : Nat) (s : Chars) : Option (List Node × Chars) :=
  match fuel with
  | 0 => none
  | fuel + 1 => do
    let (item, s) ← readNode fuel (column + 1) false true (s.drop 1)
    let (crossed, t) ← next false s
    match t with
    | [] => some ([item], t)
    | (_, k) :: _ =>
      if atEnd t || k < column || (k = column && !isDash t) then if crossed then some ([item], s) else none
      else if !crossed || k != column then none
      else
        let (items, rest) ← readItems fuel column t
        some (item :: items, rest)

end

/-- Skips the directives in front of a document. -/
def skipDirectives : Nat → Chars → Option Chars
  | 0, s => some s
  | fuel + 1, s =>
    match s with
    | ('%', 0) :: _ => (next false (takeLine s).2).bind fun p => skipDirectives fuel p.2
    | _ => some s

/-- The one document of a text; none if the text is not YAML or holds several. -/
def document? (text : String) : Option Node := do
  let chars := match text.toList with
    | c :: r => if c.toNat == 0xFEFF then r else c :: r
    | [] => []
  if !chars.all isPrintable then none
  let (_, s) ← skip false false true true (withColumns 0 (unifyBreaks chars))
  let s ← skipDirectives s.length s
  let explicit := atMark '-' s
  let (node, s) ← readNode (6 * s.length + 12) 0 false (!explicit) (if explicit then s.drop 3 else s)
  let (node, _) ← node.resolve (s.length + text.length + 1) []
  let (crossed, rest) ← next false s
  if rest.isEmpty then return node
  if !crossed && !node.isMissing then none
  if atMark '.' rest then
    let (_, rest) ← next false (rest.drop 3)
    if rest.isEmpty then return node else none
  else none

end Lookout.Yaml
