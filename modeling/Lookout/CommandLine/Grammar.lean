import Lookout.Text.Numeral
import Lookout.Text.Occurrence

/-!
# The grammar of command lines

A command line is a list of words. A word that begins with a hyphen is an option or several of them by
their letters; the value of an option follows after an equals sign, directly after its letter, or as the
next word. After a double hyphen no word is an option. A command takes words up to the name of one of its
subcommands, to which the rest belongs.
-/

namespace Lookout.CommandLine
set_option autoImplicit false
open Text

/-- Why a command line is not carried out: it asks for help or for the version, or it is wrong. -/
inductive UsageError where
  | help
  /-- The version is asked for, of a subcommand or of the whole program. -/
  | version (command : Option String)
  /-- Nothing is said at all. -/
  | helpInstead
  | missingSubcommand
  | missingArgument
  | unknownArgument
  | invalidSubcommand
  | invalidValue
  | refusedValue
  | conflict
  | tooManyValues
deriving DecidableEq, Repr

/-- What the value of an argument must be. -/
inductive ValueKind where
  | text
  /-- A path is not empty. -/
  | path
  | word32
  | word64
  | int64
deriving DecidableEq

namespace ValueKind

/-- What is wrong with a value, if anything is. -/
def refusal? (k : ValueKind) (value : String) : Option UsageError :=
  let cs := value.toList
  match k with
  | text => none
  | path => if cs.isEmpty then some .invalidValue else none
  | word32 =>
    match readInt maxInt64 cs with
    | .ok n => if 0 ≤ n && n ≤ maxWord32 then none else some .refusedValue
    | .error _ => some .refusedValue
  | word64 =>
    match readNat maxWord64 cs with
    | .ok _ => none
    | .error _ => some .refusedValue
  | int64 =>
    match readInt maxInt64 cs with
    | .ok _ => none
    | .error _ => some .refusedValue

end ValueKind

/-- What an argument does. -/
inductive Action where
  | help
  | version
  /-- Is there or is not; may be given once. -/
  | flag
  /-- Has a value; may be given once. -/
  | value (kind : ValueKind)
  /-- Has a value each time that it is given. -/
  | values (kind : ValueKind)
deriving DecidableEq

/-- An argument: an option if it has a name with hyphens, else known by its place. -/
structure Argument where
  name : String
  long : Option String := none
  short : Option Char := none
  action : Action
  /-- The environment variable that stands in for the argument. -/
  fromVariable : Option String := none
  required : Bool := false
deriving DecidableEq

namespace Argument

def takesValue (a : Argument) : Bool :=
  match a.action with
  | .value _ | .values _ => true
  | _ => false

def isRepeatable (a : Argument) : Bool :=
  match a.action with
  | .values _ => true
  | _ => false

/-- What is wrong with a value, if anything is. -/
def refusal? (a : Argument) (value : String) : Option UsageError :=
  match a.action with
  | .value k | .values k => k.refusal? value
  | _ => none

end Argument

/-- A command: its options, the argument that words without hyphens are, and its subcommands. -/
structure Command where
  options : List Argument
  positional : Option Argument := none
  subcommands : List String := []

/-- The values of an argument, and whether they were given by words or by the environment. -/
structure Found where
  name : String
  values : List String
  byWord : Bool := true
deriving DecidableEq

/-- Arguments that were found. -/
abbrev Findings := List Found

namespace Findings

def get? (fs : Findings) (name : String) : Option Found :=
  fs.find? (·.name == name)

def has (fs : Findings) (name : String) : Bool :=
  (get? fs name).isSome

/-- The values of an argument. -/
def values (fs : Findings) (name : String) : List String :=
  ((get? fs name).map Found.values).getD []

/-- The value of an argument that has one. -/
def value? (fs : Findings) (name : String) : Option String :=
  (values fs name).head?

end Findings

/-- How far the words of a command have been read. -/
structure Progress where
  findings : Findings := []
  /-- An argument whose values are still being collected. -/
  pending : Option (Argument × List String) := none
  /-- Whether the next word is the value of the pending argument. -/
  awaiting : Bool := false
  /-- Whether a double hyphen was read. -/
  trailing : Bool := false
  /-- Whether the argument that is known by its place can still be given. -/
  placeable : Bool := true

/-- Records an argument with its values. -/
def record (fs : Findings) (a : Argument) (values : List String) (byWord : Bool) :
    Except UsageError Findings :=
  match a.action with
  | .help => .error .help
  | .version => .error (.version none)
  | _ =>
    if a.takesValue && values.isEmpty then .error .invalidValue
    else if fs.has a.name && !a.isRepeatable then .error .conflict
    else
      match values.findSome? a.refusal? with
      | some e => .error e
      | none =>
        if fs.has a.name then
          .ok (fs.map fun f => if f.name = a.name then { f with values := f.values ++ values } else f)
        else .ok (fs ++ [⟨a.name, values, byWord⟩])

/-- Records the argument whose values were being collected. -/
def settle (p : Progress) : Except UsageError Progress :=
  match p.pending with
  | none => .ok p
  | some (a, values) => do
    return { p with findings := ← record p.findings a values true, pending := none, awaiting := false }

/-- Reads an option that has or lacks a value attached to it. -/
def readOption (p : Progress) (a : Argument) (attached : Option String) : Except UsageError Progress := do
  if a.takesValue then
    let p ← settle p
    match attached with
    | some value => return { p with findings := ← record p.findings a [value] true }
    | none => return { p with pending := some (a, []), awaiting := true }
  else
    match attached with
    | some _ => .error .tooManyValues
    | none =>
      let p ← settle p
      return { p with findings := ← record p.findings a [] true }

/-- Reads options by their letters. The first that takes a value takes the rest of the word. -/
def readLetters (c : Command) (p : Progress) : List Char → Except UsageError Progress
  | [] => .ok p
  | letter :: rest =>
    match c.options.find? (·.short == some letter) with
    | none => .error .unknownArgument
    | some a =>
      if a.takesValue then
        readOption p a (match rest with
          | [] => none
          | '=' :: value => some (String.ofList value)
          | value => some (String.ofList value))
      else do readLetters c (← readOption p a none) rest

/-- Reads an option by its name, up to an equals sign. -/
def readLong (c : Command) (p : Progress) (word : List Char) : Except UsageError Progress :=
  let (name, attached) := match splitOnce '=' word with
    | some (name, value) => (name, some (String.ofList value))
    | none => (word, none)
  match c.options.find? (·.long == some (String.ofList name)) with
  | none => .error .unknownArgument
  | some a => readOption p a attached

/-- What is wrong with a word that has no place. -/
def misplaced (c : Command) (p : Progress) (word : String) : UsageError :=
  if c.subcommands.isEmpty || (p.trailing && c.subcommands.contains word) then .unknownArgument
  else .invalidSubcommand

/-- Reads a word that is known by its place. -/
def readPlaced (c : Command) (p : Progress) (word : String) : Except UsageError Progress :=
  match c.positional, p.placeable with
  | some a, true =>
    match p.pending with
    | some (b, values) =>
      if b.name = a.name then .ok { p with pending := some (a, values ++ [word]) }
      else do
        let p ← settle p
        return { p with pending := some (a, [word]), placeable := a.isRepeatable }
    | none => .ok { p with pending := some (a, [word]), placeable := a.isRepeatable }
  | _, _ => .error (misplaced c p word)

/-- Reads one word. -/
def readWord (c : Command) (p : Progress) (word : String) : Except UsageError Progress :=
  if p.trailing then readPlaced c p word
  else
    match word.toList, p.pending, p.awaiting with
    | ['-', '-'], _, _ => .ok { p with trailing := true }
    | '-' :: '-' :: rest, _, _ => readLong c p rest
    | '-' :: letter :: rest, _, _ => readLetters c p (letter :: rest)
    | _, some (a, values), true => .ok { p with pending := some (a, values ++ [word]), awaiting := false }
    | _, _, _ => readPlaced c p word

/-- Reads words up to the name of a subcommand, which is given with the words after it. -/
def readWords (c : Command) : Progress → List String → Except UsageError (Progress × Option (String × List String))
  | p, [] => .ok (p, none)
  | p, word :: rest =>
    if !p.trailing && !p.awaiting && c.subcommands.contains word then .ok (p, some (word, rest))
    else do readWords c (← readWord c p word) rest

/-- Records an argument by the environment, if it was not found otherwise. -/
def recordFromVariable (env : List (String × String)) (fs : Findings) (a : Argument) :
    Except UsageError Findings :=
  match if fs.has a.name then none else a.fromVariable.bind fun v => env.lookup v with
  | some value => record fs a [value] false
  | none => .ok fs

/-- The arguments of a command after its last word: those that were found, and those by the
environment. -/
def finish (c : Command) (env : List (String × String)) (p : Progress) : Except UsageError Findings := do
  let p ← settle p
  c.options.foldlM (recordFromVariable env) p.findings

/-- Reads the words of a command without subcommands. -/
def readCommand (c : Command) (env : List (String × String)) (words : List String) :
    Except UsageError Findings := do
  let (p, _) ← readWords c {} words
  let fs ← finish c env p
  if c.positional.any fun a => a.required && !fs.has a.name then .error .missingArgument else return fs

end Lookout.CommandLine
