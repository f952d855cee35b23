import Lookout.Text.Numeral

/-!
# Writing TOML

Strings are written in the style that needs the fewest escapes: in double quotes as long as nothing in them
has to be escaped but tabs, in single quotes where that leaves backslashes and double quotes alone, and over
several lines where they hold line ends.
-/

namespace Lookout.Toml
set_option autoImplicit false

/-- How a string is written. -/
inductive Style where
  | basic
  | literal
  | basicLines
  | literalLines
deriving DecidableEq, Repr

namespace Style

def isBasic : Style → Bool
  | basic | basicLines => true
  | literal | literalLines => false

/-- Whether the string may go over several lines. -/
def isLines : Style → Bool
  | basicLines | literalLines => true
  | basic | literal => false

/-- What stands before and after the string. -/
def delimiter : Style → List Char
  | basic => ['"']
  | literal => ['\'']
  | basicLines => ['"', '"', '"']
  | literalLines => ['\'', '\'', '\'']

end Style

/-- The length of the longest run of `c`, if `run` of them stand in front and `longest` are known. -/
def longestRun (c : Char) : (run longest : Nat) → List Char → Nat
  | _, longest, [] => longest
  | run, longest, d :: r =>
    if d = c then longestRun c (run + 1) (max longest (run + 1)) r else longestRun c 0 longest r

/-- Whether a character can only be written by an escape: a control character, but no tab and no line
feed. -/
def isControl (c : Char) : Bool :=
  (c < ' ' && c != '\t' && c != '\n') || c.toNat == 0x7F

/-- The style that a string is written in. -/
def styleOf (s : List Char) : Style :=
  let controls := s.any isControl
  let newline := s.contains '\n'
  let backslash := s.contains '\\'
  let double := longestRun '"' 0 0 s
  let single := longestRun '\'' 0 0 s
  if !controls && !backslash && double = 0 && !newline then .basic
  else if !controls && single = 0 && !newline then .literal
  else if !controls && !backslash && double ≤ 2 then .basicLines
  else if !controls && single ≤ 2 then .literalLines
  else if newline then .basicLines
  else .basic

/-- A digit in base 16, in upper case. -/
def hexDigit (n : Nat) : Char :=
  (Nat.digitChar n).toUpper

/-- A character between double quotes, quotes apart. -/
def escapeChar (lines : Bool) (c : Char) : List Char :=
  if c = '\\' then ['\\', '\\']
  else if c = '\t' then ['\\', 't']
  else if c = '\n' then if lines then ['\n'] else ['\\', 'n']
  else if c = '\x08' then ['\\', 'b']
  else if c = '\x0C' then ['\\', 'f']
  else if c = '\r' then ['\\', 'r']
  else if isControl c then ['\\', 'u', '0', '0', hexDigit (c.toNat / 16), hexDigit (c.toNat % 16)]
  else [c]

/-- What stands between double quotes, if `run` quotes stand in front. Over several lines two quotes in
a row need no escape. -/
def escaped (lines : Bool) : (run : Nat) → List Char → List Char
  | _, [] => []
  | run, c :: r =>
    if c = '"' then
      if lines && run < 2 then '"' :: escaped lines (run + 1) r else '\\' :: '"' :: escaped lines 0 r
    else escapeChar lines c ++ escaped lines 0 r

/-- A string. One that has line ends begins on a line of its own. -/
def writeString (s : String) : String :=
  let style := styleOf s.toList
  let start := if style.isLines && s.toList.contains '\n' then ['\n'] else []
  let body := if style.isBasic then escaped style.isLines 0 s.toList else s.toList
  String.ofList (style.delimiter ++ start ++ body ++ style.delimiter)

/-- A whole number; none if it does not fit 64 bits. -/
def writeNat? (n : Nat) : Option String :=
  if n ≤ Text.maxInt64 then some (toString n) else none

def writeBool (b : Bool) : String :=
  if b then "true" else "false"

/-- An array of strings: on one line if it has at most one item, else with a line for each. -/
def writeStrings : List String → String
  | [] => "[]"
  | [s] => "[" ++ writeString s ++ "]"
  | ss => "[\n" ++ String.join (ss.map fun s => "    " ++ writeString s ++ ",\n") ++ "]"

/-- A table under its header; its keys need no quotes. -/
def writeTable (name : String) (fields : List (String × String)) : String :=
  "[" ++ name ++ "]\n" ++ String.join (fields.map fun f => f.1 ++ " = " ++ f.2 ++ "\n")

end Lookout.Toml
