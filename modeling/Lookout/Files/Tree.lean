import Lookout.Files.Path
import Lookout.Payload

/-!
# File trees

Directories and files, by the names that lead to them from the root. Reading and writing fail as the
system does. What changes files tells whether it was done, and what there is then in either case.
-/

namespace Lookout.Files
set_option autoImplicit false
open Text

/-- Why a file cannot be read or written. -/
inductive FileError where
  | notFound
  | notADirectory
  | isADirectory
  | alreadyExists
  | notUtf8
deriving DecidableEq

def FileError.message : FileError → String
  | notFound => "No such file or directory (os error 2)"
  | notADirectory => "Not a directory (os error 20)"
  | isADirectory => "Is a directory (os error 21)"
  | alreadyExists => "File exists (os error 17)"
  | notUtf8 => "stream did not contain valid UTF-8"

/-- What a name leads to. -/
inductive Node where
  | file (content : Payload)
  | directory
deriving DecidableEq

/-- The names that lead from the root to something. -/
abbrev Names := List (List Char)

/-- Everything there is, the root apart, which always is a directory. -/
structure Tree where
  nodes : List (Names × Node) := []
  /-- Where paths begin that do not begin at the root. -/
  current : Names := []
deriving Inhabited

namespace Tree

def node? (t : Tree) (names : Names) : Option Node :=
  if names.isEmpty then some .directory else t.nodes.lookup names

/-- The names that the parts of a path lead to from a directory. Every part but the last must lead to a
directory. -/
def walk (t : Tree) : Names → List (List Char) → Except FileError Names
  | dir, [] => .ok dir
  | dir, part :: rest =>
    match t.node? dir with
    | none => .error .notFound
    | some (.file _) => .error .notADirectory
    | some .directory =>
      if isIdlePart part then t.walk dir rest
      else if part = ['.', '.'] then t.walk dir.dropLast rest
      else t.walk (dir ++ [part]) rest

/-- The names that a path leads to. -/
def locate (t : Tree) (path : String) : Except FileError Names :=
  match path.toList with
  | [] => .error .notFound
  | '/' :: rest => t.walk [] (splitAt '/' rest)
  | cs => t.walk t.current (splitAt '/' cs)

/-- Whether a path leads to a file or directory. -/
def pathExists (t : Tree) (path : String) : Bool :=
  match t.locate path with
  | .ok names => (t.node? names).isSome
  | .error _ => false

/-- The content of a file. -/
def read (t : Tree) (path : String) : Except FileError Payload := do
  match t.node? (← t.locate path) with
  | none => .error .notFound
  | some .directory => .error .isADirectory
  | some (.file content) => .ok content

/-- The content of a file that is a text. -/
def readText (t : Tree) (path : String) : Except FileError String := do
  match (← t.read path).text? with
  | some s => .ok s
  | none => .error .notUtf8

/-- Puts a node in the place of any other of that name. -/
def put (t : Tree) (names : Names) (n : Node) : Tree :=
  if (t.nodes.lookup names).isSome then
    { t with nodes := t.nodes.map fun e => if e.1 = names then (names, n) else e }
  else { t with nodes := t.nodes ++ [(names, n)] }

/-- Makes the directories that the parts of a path lead through, as far as they are missing. What was made
before it fails stays. -/
def makeParts (t : Tree) : Names → List (List Char) → Except FileError Unit × Tree
  | _, [] => (.ok (), t)
  | dir, part :: rest =>
    if isIdlePart part then t.makeParts dir rest
    else if part = ['.', '.'] then t.makeParts dir.dropLast rest
    else
      let names := dir ++ [part]
      match t.node? names with
      | none => (t.put names .directory).makeParts names rest
      | some .directory => t.makeParts names rest
      | some (.file _) => (.error (if rest.all isIdlePart then .alreadyExists else .notADirectory), t)

/-- Makes a directory and those that it lies in. -/
def makeDirectories (t : Tree) (path : String) : Except FileError Unit × Tree :=
  match path.toList with
  | '/' :: rest => t.makeParts [] (splitAt '/' rest)
  | cs => t.makeParts t.current (splitAt '/' cs)

/-- The names under which a file can be written at a path. -/
def place (t : Tree) (path : String) : Except FileError Names := do
  let names ← t.locate path
  match t.node? names with
  | some .directory => .error .isADirectory
  | some (.file _) => .ok names
  | none =>
    match t.node? names.dropLast with
    | some .directory => if path.toList.getLast? == some '/' then .error .isADirectory else .ok names
    | some (.file _) => .error .notADirectory
    | none => .error .notFound

/-- Writes a file, in place of one that is there. -/
def write (t : Tree) (path : String) (content : Payload) : Except FileError Unit × Tree :=
  match t.place path with
  | .error e => (.error e, t)
  | .ok names => (.ok (), t.put names (.file content))

end Tree

end Lookout.Files
