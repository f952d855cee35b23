import Lookout.Probe.Registry
import Lookout.Test
import Lookout.Text.Blank

/-!
# Job lines

A job line reads `<target> must run <type> [with <name> <value>]...`. A blank line and a line that
begins with `#` hold no test. Arguments are checked against what the probe declares if the type is
registered; a type that is not registered is let through.

Words are separated by blanks. A word that begins with a quote runs to the next quote of the same
kind and may hold blanks; the quotes are not part of it. Nothing needs to separate a closing quote
from the next word. A quote inside a bare word is a character like any other.
-/

namespace Lookout
set_option autoImplicit false
open Text

/-- Why a line is no test. -/
inductive JobLineError where
  | malformed (line : String)
  | unterminatedQuote (line : String)
  | unexpectedToken (token : String)
  | missingValue (argument : String)
  | unknownArgument (probe argument : String)
  | invalidValue (argument value pattern : String)
deriving DecidableEq

namespace JobLineError

def message : JobLineError → String
  | malformed line => "Expected '<target> must run <type>', got: " ++ line
  | unterminatedQuote line => "Unterminated quote in: " ++ line
  | unexpectedToken token => "Expected 'with <name> <value>' after test type, got '" ++ token ++ "'"
  | missingValue argument => "Missing value for argument '" ++ argument ++ "'"
  | unknownArgument probe argument => "Probe '" ++ probe ++ "' does not accept argument '" ++ argument ++ "'"
  | invalidValue argument value pattern =>
    "Invalid value '" ++ value ++ "' for argument '" ++ argument ++ "' (must match " ++ pattern ++ ")"

end JobLineError

namespace JobLine

/-- The two characters that can open a quoted word. -/
def isQuote (c : Char) : Bool :=
  c == '\'' || c == '"'

/-- Where the reading of words stands. -/
inductive TokenState where
  /-- Between words. -/
  | between
  /-- In a bare word, whose characters so far are given last to first. -/
  | bare (word : List Char)
  /-- In a word opened by `quote`. -/
  | quoted (quote : Char) (word : List Char)
deriving DecidableEq

/-- Reads words from a state on. None if a quote is left open. -/
def tokensFrom : TokenState → List Char → Option (List (List Char))
  | .between, [] => some []
  | .bare w, [] => some [w.reverse]
  | .quoted _ _, [] => none
  | .between, c :: r =>
    if isBlank c then tokensFrom .between r
    else if isQuote c then tokensFrom (.quoted c []) r
    else tokensFrom (.bare [c]) r
  | .bare w, c :: r =>
    if isBlank c then (tokensFrom .between r).map (w.reverse :: ·) else tokensFrom (.bare (c :: w)) r
  | .quoted q w, c :: r =>
    if c = q then (tokensFrom .between r).map (w.reverse :: ·) else tokensFrom (.quoted q (c :: w)) r

/-- The words of a line; none if a quote is left open. -/
def tokens? (line : List Char) : Option (List (List Char)) :=
  tokensFrom .between line

/-- The clauses `with <name> <value>` that a list of words is made of. `line` is the whole line, for
the error. -/
def clauses (line : String) : List String → Except JobLineError (List (String × String))
  | [] => .ok []
  | word :: rest =>
    if word = "with" then
      match rest with
      | [] => .error (.malformed line)
      | [name] => .error (.missingValue name)
      | name :: value :: rest => (clauses line rest).map ((name, value) :: ·)
    else .error (.unexpectedToken word)

/-- What is wrong with one argument of the probe `p`, if anything. -/
def argumentError? (p : Probe) (name value : String) : Option JobLineError :=
  match p.arguments.lookup name with
  | none => some (.unknownArgument p.name name)
  | some pattern => if pattern.accepts value then none else some (.invalidValue name value pattern.text)

/-- Checks the arguments of a test against the probe of its kind, in the order of their names. -/
def validate (registry : Registry) (t : Test) : Except JobLineError Unit :=
  match registry.get? t.kind with
  | none => .ok ()
  | some p =>
    match t.arguments.entries.findSome? fun e => argumentError? p e.1 e.2 with
    | some e => .error e
    | none => .ok ()

/-- The test that a list of words asks for. `line` is the whole line. -/
def ofWords (registry : Registry) (line : String) : List String → Except JobLineError Test
  | target :: "must" :: "run" :: kind :: rest => do
    let args ← clauses line rest
    let t : Test := { kind, target, input := line, arguments := Arguments.ofList args }
    validate registry t
    return t
  | _ => .error (.malformed line)

/-- Reads one line; none for a line that holds no test. -/
def parse (registry : Registry) (line : String) : Except JobLineError (Option Test) :=
  let body := trim line.toList
  if body.isEmpty || body.head? == some '#' then .ok none
  else
    match tokens? body with
    | none => .error (.unterminatedQuote (String.ofList body))
    | some words => (ofWords registry (String.ofList body) (words.map String.ofList)).map some

end JobLine

end Lookout
