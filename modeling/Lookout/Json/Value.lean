import Lookout.Json.Number

/-!
# JSON values

What a JSON text stands for. Not every JSON text stands for a value: its strings must be texts, its
numbers must be in range, and arrays and objects may not be nested too deeply.
-/

namespace Lookout.Json
set_option autoImplicit false

/-- The bytes that the pieces of a string stand for. A high surrogate must be followed at once by a low
one, which stands nowhere else. -/
def pieceBytes : List Piece → Option Payload
  | [] => some []
  | .byte b :: r => (pieceBytes r).map (b :: ·)
  | .codeUnit u :: r =>
    if 0xD800 ≤ u && u < 0xDC00 then
      match r with
      | .codeUnit v :: r =>
        if 0xDC00 ≤ v && v < 0xE000 then
          let c := Char.ofNat (0x10000 + (u - 0xD800) * 0x400 + (v - 0xDC00))
          (pieceBytes r).map (String.utf8EncodeChar c ++ ·)
        else none
      | _ => none
    else if 0xDC00 ≤ u && u < 0xE000 then none
    else (pieceBytes r).map (String.utf8EncodeChar (Char.ofNat u) ++ ·)

/-- The text of a string. -/
def text? (s : List Piece) : Option String :=
  (pieceBytes s).bind Payload.text?

/-- A JSON value. Of several members of an object with one name the last counts. -/
inductive Value where
  | null
  | bool (b : Bool)
  | number (n : Number)
  | string (s : String)
  | array (items : List Value)
  | object (members : List (String × Value))

/-- How deeply arrays and objects may be nested. -/
def maxDepth : Nat := 127

/-- The value of a JSON text in which at most `depth` arrays and objects are nested. -/
def Value.ofRaw? : Nat → Raw → Option Value
  | _, .null => some .null
  | _, .bool b => some (.bool b)
  | _, .number n => (Number.ofNumeral? n).map .number
  | _, .string s => (text? s).map .string
  | 0, .array _ => none
  | 0, .object _ => none
  | depth + 1, .array items => (items.mapM (Value.ofRaw? depth)).map .array
  | depth + 1, .object members =>
    (members.mapM fun m : List Piece × Raw =>
      (text? m.1).bind fun name => (Value.ofRaw? depth m.2).map (name, ·)).map .object

/-- The members of the object that a payload is; none if it is no JSON object. -/
def object? (p : Payload) : Option (List (String × Value)) := do
  match Value.ofRaw? maxDepth (← Raw.ofPayload? p) with
  | some (.object members) => some members
  | _ => none

/-- The member named `name`. -/
def member? (members : List (String × Value)) (name : String) : Option Value :=
  members.reverse.lookup name

end Lookout.Json
