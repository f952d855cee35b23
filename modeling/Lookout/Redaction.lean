import Lookout.Test
import Lookout.Text.Blank
import Lookout.Text.Occurrence

/-!
# Redaction

What a test's line shows of its secrets when it is published. The values of credential arguments are
replaced by `CENSORED` wherever they occur, and then so are the passwords of URLs.
-/

namespace Lookout
set_option autoImplicit false
open Text

namespace Redaction

/-- The text that stands for a secret. -/
def mask : List Char := "CENSORED".toList

/-- How often one secret is searched for again in a line that has just been masked. -/
def maxPasses : Nat := 16

/-- The argument names whose values are secrets, in lower case. -/
def credentialNames : List String := ["password", "pass", "secret", "token", "api-key", "apikey"]

/-- Whether the argument `name` holds a secret; the case of ASCII letters does not matter. -/
def isCredential (name : String) : Bool :=
  credentialNames.contains name.toLower

/-- Replaces `secret` by the mask until it no longer occurs, `passes` times at most: a mask and the
text beside it may form the secret again. -/
def maskPasses (secret : List Char) : Nat → List Char → List Char
  | 0, line => line
  | passes + 1, line =>
    if occursIn secret line then maskPasses secret passes (replaceAll secret mask line) else line

/-- `line` with `secret`, which is not empty, masked. A secret that is part of the mask stays visible
inside the masks, and only there. -/
def maskValue (line secret : List Char) : List Char :=
  if occursIn secret mask then
    List.intercalate mask ((pieces mask line).map (replaceAll secret mask))
  else
    maskPasses secret maxPasses line

/-- A character of a URL scheme after the first. -/
def isSchemeChar (c : Char) : Bool :=
  c.isAlphanum || c == '+' || c == '.' || c == '-'

/-- A character of the user in front of a URL password. -/
def isUserChar (c : Char) : Bool :=
  !(isBlank c || c == '/' || c == ':' || c == '@')

/-- A character of a URL password. -/
def isPasswordChar (c : Char) : Bool :=
  !(isBlank c || c == '/' || c == '@')

/-- A URL up to the end of its userinfo, `scheme://user:password@`, at the head of a text. -/
structure UrlPassword where
  scheme : List Char
  user : List Char
  password : List Char
deriving DecidableEq

namespace UrlPassword

/-- The number of characters of `scheme://user:password@`. -/
def length (u : UrlPassword) : Nat :=
  u.scheme.length + 3 + u.user.length + 1 + u.password.length + 1

/-- `scheme://user:CENSORED@`. -/
def masked (u : UrlPassword) : List Char :=
  u.scheme ++ [':', '/', '/'] ++ u.user ++ [':'] ++ mask ++ ['@']

/-- The URL password that a text begins with. The user ends at the first colon and the password at
the first at sign, and no blank or slash comes before it. -/
def atHead? : List Char → Option UrlPassword
  | [] => none
  | c :: r =>
    if c.isAlpha then
      match r.dropWhile isSchemeChar with
      | ':' :: '/' :: '/' :: u =>
        match u.dropWhile isUserChar with
        | ':' :: p =>
          match p.takeWhile isPasswordChar, p.dropWhile isPasswordChar with
          | w :: ws, '@' :: _ => some ⟨c :: r.takeWhile isSchemeChar, u.takeWhile isUserChar, w :: ws⟩
          | _, _ => none
        | _ => none
      | _ => none
    else none

end UrlPassword

/-- Masks the URL passwords of a text after its first `skip` characters. -/
def maskUrlsFrom : Nat → List Char → List Char
  | _, [] => []
  | skip + 1, _ :: r => maskUrlsFrom skip r
  | 0, c :: r =>
    match UrlPassword.atHead? (c :: r) with
    | some u => u.masked ++ maskUrlsFrom (u.length - 1) r
    | none => c :: maskUrlsFrom 0 r

/-- `line` with the password of every URL masked. -/
def maskUrls (line : List Char) : List Char :=
  maskUrlsFrom 0 line

/-- The secrets of some arguments, in the order of their names. -/
def secrets (a : Arguments) : List (List Char) :=
  a.entries.filterMap fun e => if isCredential e.1 && e.2 != "" then some e.2.toList else none

/-- `line` with all secrets masked one after the other, and then the passwords of URLs. -/
def redact (secrets : List (List Char)) (line : List Char) : List Char :=
  maskUrls (secrets.foldl maskValue line)

end Redaction

namespace Test

/-- The line of the test with its secrets masked. -/
def sanitize (t : Test) : String :=
  String.ofList (Redaction.redact (Redaction.secrets t.arguments) t.input.toList)

/-- The test aimed at one target, with a line that is safe to publish. -/
def forTarget (t : Test) (target : String) : Test :=
  { t with target := target, input := t.sanitize }

end Test

end Lookout
