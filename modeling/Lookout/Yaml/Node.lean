/-!
# YAML nodes

What a YAML document is made of. A scalar keeps its text and how it was written: only a plain scalar can
stand for something other than its text.
-/

namespace Lookout.Yaml
set_option autoImplicit false

/-- How a scalar is written. -/
inductive Style where
  | plain
  /-- Plain, after a tag; `ofNull` tells whether that is the tag of null. -/
  | tagged (ofNull : Bool)
  /-- In quotes, or as a block. -/
  | quoted
deriving DecidableEq

/-- A part of a document. -/
inductive Node where
  | scalar (style : Style) (text : String)
  | sequence (items : List Node)
  | mapping (entries : List (Node × Node))
  /-- A node that has a name. -/
  | anchored (name : String) (node : Node)
  /-- The node that was last given this name. -/
  | reference (name : String)

namespace Node

/-- Replaces aliases by what they stand for. The names given so far go along, the last one first. Nodes
deeper than the first argument are refused. -/
def resolve : Nat → List (String × Node) → Node → Option (Node × List (String × Node))
  | 0, _, _ => none
  | depth + 1, names, n =>
    match n with
    | scalar style text => some (scalar style text, names)
    | sequence items => do
      let (items, names) ← items.foldlM
        (fun (done, names) item => (resolve depth names item).map fun r => (done ++ [r.1], r.2)) ([], names)
      return (sequence items, names)
    | mapping entries => do
      let (entries, names) ← entries.foldlM
        (fun (done, names) (key, value) => do
          let (key, names) ← resolve depth names key
          let (value, names) ← resolve depth names value
          return (done ++ [(key, value)], names))
        ([], names)
      return (mapping entries, names)
    | anchored name n => (resolve depth names n).map fun r => (r.1, (name, r.1) :: r.2)
    | reference name => (names.lookup name).map (·, names)

/-- Nothing where a node could be. -/
def missing : Node := scalar .plain ""

/-- Whether nothing is there, not counting a tag. -/
def isMissing : Node → Bool
  | scalar .quoted _ => false
  | scalar _ text => text == ""
  | _ => false

/-- The node after a tag. Only a plain scalar is another thing then. -/
def tagged (ofNull : Bool) : Node → Node
  | scalar .plain text => scalar (.tagged ofNull) text
  | anchored name n => anchored name (tagged ofNull n)
  | n => n

/-- The text of a scalar. -/
def text? : Node → Option String
  | scalar _ text => some text
  | _ => none

/-- The words for null. -/
def nullWords : List String :=
  ["~", "null", "Null", "NULL"]

/-- The text of a scalar that may be null. Plain scalars are null if they are empty or a word for it, and
scalars with the tag of null must be such a word; all other scalars are text. -/
def optionalText? : Node → Option (Option String)
  | scalar .plain text => some (if text = "" ∨ text ∈ nullWords then none else some text)
  | scalar (.tagged true) text => if text ∈ nullWords then some none else none
  | scalar _ text => some (some text)
  | _ => none

/-- The truth value that a scalar without quotes stands for. -/
def bool? : Node → Option Bool
  | scalar .quoted _ => none
  | scalar _ text =>
    if ["true", "True", "TRUE"].contains text then some true
    else if ["false", "False", "FALSE"].contains text then some false
    else none
  | _ => none

/-- The items of a sequence; nothing is an empty one. -/
def items? : Node → Option (List Node)
  | sequence items => some items
  | n => if n.isMissing then some [] else none

/-- The entries of a mapping whose keys all are scalars; nothing is an empty one. -/
def fields? : Node → Option (List (String × Node))
  | mapping entries => entries.mapM fun e => e.1.text?.map (·, e.2)
  | n => if n.isMissing then some [] else none

end Node

end Lookout.Yaml
