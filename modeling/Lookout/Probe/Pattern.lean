/-!
# Patterns for argument values

The patterns that probes declare for the values of their arguments. A pattern is known by its text,
which error messages quote.
-/

namespace Lookout
set_option autoImplicit false

/-- A pattern for the value of an argument. -/
inductive Pattern where
  /-- Any value. -/
  | anything
  /-- Any value; its text is empty. -/
  | blank
  /-- ASCII digits, at least one. -/
  | digits
  /-- Exactly three ASCII digits. -/
  | threeDigits
  /-- Lower case ASCII letters, at least one. -/
  | lowercase
  /-- A text that is no pattern. No value matches it. -/
  | malformed (text : String)
  /-- Any other pattern. Which values match it is taken as given. -/
  | other (text : String) (matching : String → Bool)
deriving Inhabited

namespace Pattern

/-- How the pattern is written. -/
def text : Pattern → String
  | anything => ".*"
  | blank => ""
  | digits => "^[0-9]+$"
  | threeDigits => "^[0-9]\x7b3\x7d$"
  | lowercase => "^[a-z]+$"
  | malformed text | other text _ => text

/-- The patterns that are well formed. -/
def wellFormed : List Pattern := [anything, blank, digits, threeDigits, lowercase]

/-- The pattern written `text`. -/
def ofText (text : String) : Pattern :=
  (wellFormed.find? (·.text == text)).getD (malformed text)

/-- Whether a value matches. -/
def accepts (p : Pattern) (value : String) : Bool :=
  let cs := value.toList
  match p with
  | anything | blank => true
  | digits => !cs.isEmpty && cs.all Char.isDigit
  | threeDigits => cs.length == 3 && cs.all Char.isDigit
  | lowercase => !cs.isEmpty && cs.all Char.isLower
  | malformed _ => false
  | other _ matching => matching value

end Pattern

end Lookout
