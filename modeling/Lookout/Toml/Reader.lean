import Lookout.Toml.Number
import Lookout.Toml.Token

/-!
# Reading TOML

A document is read line by line: headers of tables, and keys with their values. Each line changes the
table that the document is so far.
-/

namespace Lookout.Toml
set_option autoImplicit false

/-- Reads the items of an array up to its closing bracket. A comma may follow the last. -/
def readItems (readItem : List Char → Option (Value × List Char)) :
    (fuel : Nat) → List Char → Option (List Value × List Char)
  | 0, _ => none
  | fuel + 1, s => do
    match ← skipFiller false s with
    | ']' :: r => return ([], r)
    | s =>
      let (v, s) ← readItem s
      match ← skipFiller false s with
      | ',' :: r => (readItems readItem fuel r).map fun p => (v :: p.1, p.2)
      | ']' :: r => return ([v], r)
      | _ => none

/-- A key, the parts before its last and its value. -/
abbrev Assignment := List String × String × Value

/-- Reads a key and its value. -/
def readAssignment (readItem : List Char → Option (Value × List Char)) (s : List Char) :
    Option (Assignment × List Char) := do
  let ((path, key), s) ← readKey s
  match s with
  | '=' :: r => do
    let (v, s) ← readItem (skipBlanks r)
    return ((path, key, v), s)
  | _ => none

/-- Reads the members of a table between braces, at least one, up to its closing brace. -/
def readMembers (readItem : List Char → Option (Value × List Char)) :
    (fuel : Nat) → List Char → Option (List Assignment × List Char)
  | 0, _ => none
  | fuel + 1, s => do
    let (a, s) ← readAssignment readItem s
    match skipBlanks s with
    | ',' :: r => (readMembers readItem fuel r).map fun p => (a :: p.1, p.2)
    | '\x7d' :: r => return ([a], r)
    | _ => none

/-- The table that its members make up. -/
def tableOf (members : List Assignment) : Option Value :=
  (members.foldlM (fun es a => assign .explicit a.1 a.2.1 a.2.2 es) []).map (.table .inline)

/-- How deeply arrays and tables may be nested in a value. -/
def maxDepth : Nat := 79

/-- Reads a value in which at most `depth` arrays and tables are nested. -/
def readValue : (depth : Nat) → List Char → Option (Value × List Char)
  | depth, s =>
    match s with
    | '"' :: r => (readString '"' r).map fun p => (.string (String.ofList p.1), p.2)
    | '\'' :: r => (readString '\'' r).map fun p => (.string (String.ofList p.1), p.2)
    | 't' :: 'r' :: 'u' :: 'e' :: r => some (.boolean true, r)
    | 'f' :: 'a' :: 'l' :: 's' :: 'e' :: r => some (.boolean false, r)
    | '[' :: r =>
      match depth with
      | 0 => none
      | depth + 1 => (readItems (readValue depth) r.length r).map fun p => (.array p.1, p.2)
    | '\x7b' :: r =>
      match depth with
      | 0 => none
      | depth + 1 =>
        match skipBlanks r with
        | '\x7d' :: r => some (.table .inline [], r)
        | _ => do
          let (members, s) ← readMembers (readValue depth) r.length r
          return (← tableOf members, s)
    | s => (readTime s).orElse fun _ => readNumber s

/-- A line of a document. -/
inductive Line where
  | header (path : List String) (key : String)
  | element (path : List String) (key : String)
  | assignment (a : Assignment)

/-- Reads a line that is neither empty nor a comment. -/
def readLine (s : List Char) : Option (Line × List Char) :=
  match s with
  | '[' :: '[' :: r => do
    let ((path, key), s) ← readKey r
    match s with
    | ']' :: ']' :: s => return (.element path key, s)
    | _ => none
  | '[' :: r => do
    let ((path, key), s) ← readKey r
    match s with
    | ']' :: s => return (.header path key, s)
    | _ => none
  | s => do
    let (a, s) ← readAssignment (readValue maxDepth) s
    return (.assignment a, s)

/-- Reads the lines of a document. -/
def readLines : (fuel : Nat) → List Char → Option (List Line)
  | 0, _ => none
  | fuel + 1, s => do
    match ← skipFiller false s with
    | [] => return []
    | s =>
      let (line, s) ← readLine s
      return line :: (← readLines fuel (← afterLine? s))

/-- A document so far: its table, and the path of the header that the next keys belong to. -/
structure Document where
  entries : Entries := []
  header : List String := []

/-- What a line does to a document. -/
def Document.add (d : Document) (line : Line) : Option Document :=
  match line with
  | .header path key => do return ⟨← openTable path key d.entries, path ++ [key]⟩
  | .element path key => do return ⟨← openElement path key d.entries, path ++ [key]⟩
  | .assignment (path, key, v) => do
    return { d with
      entries := ← within false (fun _ es => assign .explicit path key v es) .explicit d.header d.entries }

/-- A text without the byte order mark that it begins with, if it does. -/
def withoutMark : List Char → List Char
  | c :: r => if c = '\uFEFF' then r else c :: r
  | [] => []

/-- The table that a document is; none if it is no TOML. -/
def document? (text : String) : Option Entries := do
  let s := withoutMark text.toList
  let lines ← readLines (s.length + 1) s
  return (← lines.foldlM Document.add {}).entries

end Lookout.Toml
