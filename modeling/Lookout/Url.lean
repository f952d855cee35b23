import Lookout.Url.Host

/-!
# URLs

The parts of a URL and how they are written. All parts are held as the URL writes them, percent encoded.
-/

namespace Lookout
set_option autoImplicit false
open Url

/-- What follows two slashes in a URL. An empty password is none. -/
structure Authority where
  username : List Char
  password : List Char
  host : Host
  port : Option Nat
deriving DecidableEq

/-- A URL. -/
structure Url where
  scheme : List Char
  authority : Option Authority
  path : List Char
  query : Option (List Char)
  fragment : Option (List Char)
deriving DecidableEq

namespace Authority

/-- The user and the password, up to the at sign. -/
def userinfo (a : Authority) : List Char :=
  if a.username.isEmpty && a.password.isEmpty then []
  else a.username ++ (if a.password.isEmpty then [] else ':' :: a.password) ++ ['@']

def chars (a : Authority) : List Char :=
  a.userinfo ++ a.host.chars ++ (match a.port with | some p => ':' :: Nat.toDigits 10 p | none => [])

end Authority

namespace Url

/-- The URL in writing. -/
def chars (u : Url) : List Char :=
  u.scheme ++ [':']
    ++ (match u.authority with | some a => '/' :: '/' :: a.chars | none => [])
    ++ u.path
    ++ (match u.query with | some q => '?' :: q | none => [])
    ++ (match u.fragment with | some f => '#' :: f | none => [])

def text (u : Url) : String :=
  String.ofList u.chars

/-- The host, if there is one that is not empty. -/
def host? (u : Url) : Option Host :=
  (u.authority.map Authority.host).filter fun h => !h.isEmpty

/-- The URL without user and password. -/
def withoutUserinfo (u : Url) : Url :=
  { u with authority := u.authority.map fun a => { a with username := [], password := [] } }

/-- The schemes with rules of their own and the ports that they imply. -/
def specialSchemes : List (String × Option Nat) :=
  [("http", some 80), ("https", some 443), ("ws", some 80), ("wss", some 443), ("ftp", some 21), ("file", none)]

def isSpecial (scheme : List Char) : Bool :=
  specialSchemes.any (·.1.toList == scheme)

def defaultPort (scheme : List Char) : Option Nat :=
  (specialSchemes.find? (·.1.toList == scheme)).bind (·.2)

def isFile (scheme : List Char) : Bool :=
  scheme == "file".toList

/-- The URL with a password, which is not empty; none if the URL has no host to log in to. -/
def withPassword? (u : Url) (password : String) : Option Url :=
  match u.authority with
  | some a =>
    if a.host.isEmpty || isFile u.scheme then none
    else some { u with authority := some { a with password := percentEncode userinfoSet password.toList } }
  | none => none

end Url

end Lookout
