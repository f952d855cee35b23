import Lookout.Url
import Lookout.Text.Numeral

/-!
# Reading URLs

Blanks and control characters around a URL do not count, nor do tabs and line breaks within it. A URL
has a scheme; what follows depends on whether the scheme is special.
-/

namespace Lookout.Url
set_option autoImplicit false
open Text

/-- The characters of a URL that count. -/
def cleaned (s : List Char) : List Char :=
  let outer (c : Char) : Bool := c.toNat ≤ 0x20
  let s := ((s.dropWhile outer).reverse.dropWhile outer).reverse
  s.filter fun c => !(c == '\t' || c == '\n' || c == '\r')

def isSchemeChar (c : Char) : Bool :=
  c.isAlphanum || c == '+' || c == '-' || c == '.'

/-- The scheme in lower case, and what follows its colon. -/
def readScheme? (s : List Char) : Option (List Char × List Char) :=
  match s with
  | c :: _ =>
    if c.isAlpha then
      match s.dropWhile isSchemeChar with
      | ':' :: r => some ((s.takeWhile isSchemeChar).map Char.toLower, r)
      | _ => none
    else none
  | [] => none

/-- Whether a character separates the segments of a path. -/
def isSlash (special : Bool) (c : Char) : Bool :=
  c == '/' || (special && c == '\\')

/-- Whether a character ends the authority. -/
def endsAuthority (special : Bool) (c : Char) : Bool :=
  isSlash special c || c == '?' || c == '#'

/-- Cuts a text at the last occurrence of `c`. -/
def splitLast (c : Char) (s : List Char) : Option (List Char × List Char) :=
  (splitOnce c s.reverse).map fun p => (p.2.reverse, p.1.reverse)

/-- The host within `s`: it runs to a colon outside brackets. -/
def splitHost : Bool → List Char → List Char × List Char
  | _, [] => ([], [])
  | bracketed, c :: r =>
    if c == ':' && !bracketed then ([], c :: r)
    else
      let inside := c == '[' || (bracketed && c != ']')
      ((c :: (splitHost inside r).1), (splitHost inside r).2)

/-- The port after a colon. No digits are no port, and so is the one that the scheme implies. -/
def readPort (implied : Option Nat) (s : List Char) : Except UrlError (Option Nat) :=
  if s.isEmpty then .ok none
  else
    match readMagnitude maxWord16 .tooLarge s with
    | .ok n => .ok (if some n = implied then none else some n)
    | .error _ => .error .invalidPort

/-- User and password in front of the last at sign of an authority. -/
def readUserinfo (s : List Char) : List Char × List Char :=
  match splitOnce ':' s with
  | some (user, password) => (percentEncode userinfoSet user, percentEncode userinfoSet password)
  | none => (percentEncode userinfoSet s, [])

/-- The authority of a URL that is not a `file` URL, given the text up to the slash, question mark or
hash that ends it. `ended` tells that there is one. A backslash after a port belongs to the path, which
is given with the authority. -/
def readAuthority (scheme : List Char) (ended : Bool) (s : List Char) :
    Except UrlError (Authority × List Char) := do
  let special := isSpecial scheme
  let (userinfo, hostPort) := (splitLast '@' s).getD ([], s)
  let anonymous := userinfo.isEmpty
  if anonymous && s.head? == some '@' && hostPort.isEmpty && ended then .error .emptyHost
  let (username, password) := readUserinfo userinfo
  let (hostText, portText) := splitHost false hostPort
  if special && hostText.isEmpty then .error .emptyHost
  let host ← if special then Host.ofDomain hostText else Host.ofOpaque hostText
  if host.isEmpty && portText.head? == some ':' then .error .emptyHost
  let port ← readPort (defaultPort scheme) ((portText.drop 1).takeWhile (· != '\\'))
  if host.isEmpty && !(username.isEmpty && password.isEmpty) then .error .emptyHost
  return ({ username, password, host, port }, portText.dropWhile (· != '\\'))

/-- Whether a segment is a single dot, possibly percent encoded. -/
def isDot (segment : List Char) : Bool :=
  [".", "%2e"].contains (String.ofList (segment.map Char.toLower))

/-- Whether a segment is a double dot, possibly percent encoded. -/
def isDoubleDot (segment : List Char) : Bool :=
  ["..", ".%2e", "%2e.", "%2e%2e"].contains (String.ofList (segment.map Char.toLower))

/-- Whether a segment is the letter of a drive. -/
def isDriveLetter : List Char → Bool
  | [c, d] => c.isAlpha && (d == ':' || d == '|')
  | _ => false

/-- What a double dot leaves of the segments before it, given last to first: a drive is not left. -/
def shorten : List (List Char) → List (List Char)
  | [] => []
  | segment :: before => if isDriveLetter segment then segment :: before else before

/-- Adds the segments of a path, in order, to those before them, given last to first. Dots are resolved;
at the end of a path they leave an empty segment. -/
def resolveSegments (before : List (List Char)) : List (List Char) → List (List Char)
  | [] => before.reverse
  | segment :: rest =>
    let last := rest.isEmpty
    if isDoubleDot segment then resolveSegments (if last then [] :: shorten before else shorten before) rest
    else if isDot segment then resolveSegments (if last then [] :: before else before) rest
    else resolveSegments (percentEncode pathSet segment :: before) rest

/-- The segments that slashes cut a path into. -/
def splitSegments (special : Bool) : List Char → List (List Char)
  | [] => [[]]
  | c :: r =>
    if isSlash special c then [] :: splitSegments special r
    else (splitSegments special r).modifyHead (c :: ·)

/-- The path of a URL with an authority or with a path that begins with a slash. Only the path of a URL
that is not special may be empty. -/
def readPath (special : Bool) (s : List Char) : List Char :=
  let segments :=
    match s with
    | [] => if special then [[]] else []
    | c :: r => if isSlash special c then splitSegments special r else splitSegments special s
  (resolveSegments [] segments).flatMap ('/' :: ·)

/-- What ends a path. -/
def endsPath (c : Char) : Bool :=
  c == '?' || c == '#'

/-- Query and fragment, from the question mark or hash on. -/
def readTail (special : Bool) (s : List Char) : Option (List Char) × Option (List Char) :=
  let query (q : List Char) := percentEncode (if special then specialQuerySet else querySet) q
  let fragment (f : List Char) := percentEncode fragmentSet f
  match s with
  | '?' :: r =>
    match splitOnce '#' r with
    | some (q, f) => (some (query q), some (fragment f))
    | none => (some (query r), none)
  | '#' :: f => (none, some (fragment f))
  | _ => (none, none)

/-- Puts a URL together from what follows its authority. -/
def assemble (scheme : List Char) (authority : Option Authority) (s : List Char) : Url :=
  let special := isSpecial scheme
  let (query, fragment) := readTail special (s.dropWhile (!endsPath ·))
  { scheme, authority, path := readPath special (s.takeWhile (!endsPath ·)), query, fragment }

/-- A URL, given what follows the slashes after its scheme. -/
def readAfterSlashes (scheme s : List Char) : Except UrlError Url :=
  let ends := endsAuthority (isSpecial scheme)
  let rest := s.dropWhile (!ends ·)
  (readAuthority scheme (!rest.isEmpty) (s.takeWhile (!ends ·))).map fun p =>
    assemble scheme (some p.1) (p.2 ++ rest)

/-- The authority of a `file` URL, which has no more than a host. The local host is none. -/
def fileAuthority (host : Host) : Authority :=
  ⟨[], [], if host == .name "localhost".toList then .name [] else host, none⟩

/-- Whether the first segment of a path is a drive once dots are resolved. The segments before those given
are given last to first. -/
def beginsWithDrive (before : List (List Char)) : List (List Char) → Bool
  | [] => false
  | segment :: rest =>
    if isDoubleDot segment then beginsWithDrive (shorten before) rest
    else if isDot segment then beginsWithDrive before rest
    else (before.isEmpty && isDriveLetter segment) || beginsWithDrive (segment :: before) rest

/-- A `file` URL, given what follows its scheme. A path that begins with a drive leaves no host. -/
def readFile (scheme s : List Char) : Except UrlError Url :=
  let noHost := fileAuthority (.name [])
  match s with
  | a :: b :: r =>
    if isSlash true a && isSlash true b then
      let ends := endsAuthority true
      let hostText := r.takeWhile (!ends ·)
      let rest := r.dropWhile (!ends ·)
      if isDriveLetter hostText then .ok (assemble scheme (some noHost) r)
      else if hostText.isEmpty then .ok (assemble scheme (some noHost) rest)
      else
        (Host.ofDomain hostText).map fun host =>
          let onDrive := beginsWithDrive [] ((splitSegments true (rest.takeWhile (!endsPath ·))).drop 1)
          assemble scheme (some (if onDrive then noHost else fileAuthority host)) rest
    else .ok (assemble scheme (some noHost) s)
  | _ => .ok (assemble scheme (some noHost) s)

/-- A URL whose path is one text that means something to its scheme alone. -/
def readOpaque (scheme s : List Char) : Url :=
  let (query, fragment) := readTail false (s.dropWhile (!endsPath ·))
  { scheme, authority := none, path := percentEncode controlSet (s.takeWhile (!endsPath ·)), query, fragment }

/-- Reads a URL. -/
def ofChars (input : List Char) : Except UrlError Url :=
  match readScheme? (cleaned input) with
  | none => .error .relativeWithoutBase
  | some (scheme, s) =>
    if isFile scheme then readFile scheme s
    else if isSpecial scheme then readAfterSlashes scheme (s.dropWhile (isSlash true))
    else
      match s with
      | '/' :: '/' :: r => readAfterSlashes scheme r
      | '/' :: _ => .ok (assemble scheme none s)
      | _ => .ok (readOpaque scheme s)

/-- Reads a URL. -/
def ofText (input : String) : Except UrlError Url :=
  ofChars input.toList

end Lookout.Url
