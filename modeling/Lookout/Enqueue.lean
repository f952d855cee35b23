import Lookout.Activity
import Lookout.Files.Tree
import Lookout.JobLine
import Lookout.Redaction

/-!
# Enqueueing

Files of job lines are read into tests and the tests pushed onto a queue, each as the line that it was
read from. Nothing is pushed if any line is bad or names a probe that is not registered.
-/

namespace Lookout.Enqueue
set_option autoImplicit false
open Text

/-- A place in a file, lines counted from 1. -/
structure Place where
  file : String
  line : Nat
deriving DecidableEq

def Place.text (p : Place) : String :=
  p.file ++ ":" ++ toString p.line

/-- Why tests could not be enqueued. -/
inductive EnqueueError where
  | unreadable (file : String) (cause : Files.FileError)
  | badLine (place : Place) (cause : JobLineError)
  | unknownKind (place : Place) (kind : String)
  /-- A push was refused; the test is shown by its sanitized line. -/
  | refused (test : String)
deriving DecidableEq

/-- The messages of an error, outermost first. `refusal` is what the queue gives as its reason. -/
def EnqueueError.messages (refusal : List String) : EnqueueError → List String
  | unreadable file cause => ["Failed to read " ++ file, cause.message]
  | badLine place cause => [place.text, cause.message]
  | unknownKind place kind => [place.text ++ ": unknown test type '" ++ kind ++ "'"]
  | refused test => ("Failed to enqueue '" ++ test ++ "'") :: refusal

/-- A line without the carriage return that belongs to the line feed after it. -/
def withoutReturn (line : List Char) : List Char :=
  if line.getLast? == some '\r' then line.dropLast else line

/-- The lines of a text. A line feed ends a line, with a carriage return before it if there is one. -/
def linesOf (text : String) : List String :=
  let parts := splitAt '\n' text.toList
  let complete := parts.dropLast.map withoutReturn
  let last := (parts.getLast?).getD []
  (complete ++ if last.isEmpty then [] else [last]).map String.ofList

/-- The test in one line of a file, if it holds one. -/
def readLine (registry : Registry) (place : Place) (line : String) : Except EnqueueError (Option Test) :=
  match JobLine.parse registry line with
  | .error e => .error (.badLine place e)
  | .ok none => .ok none
  | .ok (some t) => if registry.contains t.kind then .ok (some t) else .error (.unknownKind place t.kind)

/-- The tests in the lines of a file from line `n` on. -/
def readLines (registry : Registry) (file : String) : Nat → List String → Except EnqueueError (List Test)
  | _, [] => .ok []
  | n, line :: rest => do
    let t ← readLine registry ⟨file, n⟩ line
    return t.toList ++ (← readLines registry file (n + 1) rest)

/-- The tests in a file. -/
def readFile (registry : Registry) (tree : Files.Tree) (file : String) : Except EnqueueError (List Test) :=
  match tree.readText file with
  | .error e => .error (.unreadable file e)
  | .ok text => readLines registry file 1 (linesOf text)

/-- The tests in files, in order. -/
def readJobs (registry : Registry) (tree : Files.Tree) : List String → Except EnqueueError (List Test)
  | [] => .ok []
  | file :: rest => do
    let tests ← readFile registry tree file
    return tests ++ (← readJobs registry tree rest)

/-- Pushes tests one after the other up to the first that is refused. The result is that test, if any. -/
def pushJobs (queue : String) : List Test → Activity (Option Test)
  | [] => .done none
  | t :: rest => .push queue (Payload.ofText t.input) fun
    | true => pushJobs queue rest
    | false => .done (some t)

/-- How many tests were pushed, by the test that was refused. -/
def outcome (tests : List Test) : Option Test → Except EnqueueError Nat
  | none => .ok tests.length
  | some t => .error (.refused t.sanitize)

end Lookout.Enqueue
