import Lookout.Text.Blank
import Lookout.Text.Occurrence

/-!
# The log and the report of an error

How the log is written and how much of it, and how the error that ends the program is reported.
-/

namespace Lookout
set_option autoImplicit false

/-- How log lines are written. -/
inductive LogFormat where
  | compact
  | json
deriving DecidableEq, Repr

/-- How much is logged. -/
inductive LogLevel where
  | debug
  | info
deriving DecidableEq, Repr

/-- The format that a text asks for. Case and blanks around it do not count; all but `json` is compact. -/
def LogFormat.ofText (s : String) : LogFormat :=
  if (Text.trimmed s).toLower = "json" then json else compact

/-- The level without any other wish. -/
def LogLevel.standard (verbose : Bool) : LogLevel :=
  if verbose then debug else info

namespace Program

/-- A text whose first line has `first` in front, and every other line `other`. -/
def indented (first other text : String) : String :=
  first ++ String.intercalate ("\n" ++ other) ((Text.splitAt '\n' text.toList).map String.ofList)

/-- A number before a cause. -/
def causeNumber (n : Nat) : String :=
  let digits := toString n
  String.ofList (List.replicate (5 - digits.length) ' ') ++ digits ++ ": "

/-- Causes as they are reported, each on lines of its own. They are numbered if there are several. -/
def causesText : List String → String
  | [] => ""
  | [cause] => indented "    " "    " cause ++ "\n"
  | causes => String.join (causes.zipIdx.map fun c => indented (causeNumber c.2) "       " c.1 ++ "\n")

/-- How an error is reported, by its messages, outermost first. -/
def errorText : List String → String
  | [] => ""
  | message :: causes =>
    "Error: " ++ message ++ "\n" ++ if causes.isEmpty then "" else "\nCaused by:\n" ++ causesText causes

end Program

end Lookout
