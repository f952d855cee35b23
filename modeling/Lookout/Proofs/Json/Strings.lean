import Lookout.Json.Value

/-!
# Strings read back

A string in writing is read piece by piece as it was written byte by byte. Control characters that have no short
escape come back as code units, which stand for the same bytes; so the text of what is read is what was written.
-/

namespace Lookout.Json
set_option autoImplicit false
open Payload

/-- The control characters that have a short escape. -/
def shortControls : List UInt8 :=
  [0x08, 0x09, 0x0A, 0x0C, 0x0D]

/-- The piece that a byte is read as after it has been written. -/
def pieceOf (b : UInt8) : Piece :=
  if b < 0x20 ∧ b ∉ shortControls then .codeUnit b.toNat else .byte b

/-- The pieces of a text that has been written. -/
def piecesOf (s : String) : List Piece :=
  (ofText s).map pieceOf

/-- The ways in which a byte is written, and what is read of it. -/
inductive Escaped (b : UInt8) : Payload → Piece → Prop where
  | short {c : UInt8} (letter : c ≠ ascii 'u') (stands : shortEscape? c = some b) :
      Escaped b [ascii '\\', c] (.byte b)
  | control (low : b < 0x20) :
      Escaped b (ofText "\\u00" ++ [hexDigit (b.toNat / 16), hexDigit (b.toNat % 16)]) (.codeUnit b.toNat)
  | plain (quote : b ≠ ascii '"') (backslash : b ≠ ascii '\\') (printable : ¬ b < 0x20) : Escaped b [b] (.byte b)

theorem escaped_escapeByte (b : UInt8) : Escaped b (escapeByte b) (pieceOf b) := by
  by_cases special : b ∈ ascii '"' :: ascii '\\' :: shortControls
  · simp only [shortControls, List.mem_cons, List.not_mem_nil, or_false] at special
    rcases special with rfl | rfl | rfl | rfl | rfl | rfl | rfl
    · exact @Escaped.short _ (ascii '"') (by decide) rfl
    · exact @Escaped.short _ (ascii '\\') (by decide) rfl
    · exact @Escaped.short _ (ascii 'b') (by decide) rfl
    · exact @Escaped.short _ (ascii 't') (by decide) rfl
    · exact @Escaped.short _ (ascii 'n') (by decide) rfl
    · exact @Escaped.short _ (ascii 'f') (by decide) rfl
    · exact @Escaped.short _ (ascii 'r') (by decide) rfl
  · have others := special
    simp only [shortControls, List.mem_cons, List.not_mem_nil, or_false, not_or] at others
    obtain ⟨quote, backslash, h8, h9, hA, hC, hD⟩ := others
    have uncontrolled : b ∉ shortControls := fun mem =>
      special (List.mem_cons_of_mem _ (List.mem_cons_of_mem _ mem))
    simp only [escapeByte, if_neg quote, if_neg backslash, if_neg h8, if_neg h9, if_neg hA, if_neg hC, if_neg hD]
    by_cases low : b < 0x20
    · rw [if_pos low, pieceOf, if_pos ⟨low, uncontrolled⟩]
      exact .control low
    · rw [if_neg low, pieceOf, if_neg fun h => low h.1]
      exact .plain quote backslash low

/-- The digits by which a control character is written stand for it. -/
theorem codeUnit?_control : ∀ b : Fin 32,
    codeUnit? (ascii '0') (ascii '0') (hexDigit (b.val / 16)) (hexDigit (b.val % 16)) = some b.val := by
  decide

theorem readString_escapeByte (b : UInt8) (rest : Payload) :
    readString .plain (escapeByte b ++ rest) = (readString .plain rest).map fun p => (pieceOf b :: p.1, p.2) := by
  have escaped := escaped_escapeByte b
  generalize escapeByte b = written, pieceOf b = piece at escaped
  cases escaped with
  | short letter stands =>
    simp only [List.cons_append, List.nil_append]
    rw [readString, if_neg (by decide), if_pos rfl, readString, if_neg letter, stands]
  | control low =>
    have unit := codeUnit?_control ⟨b.toNat, low⟩
    have opening : ofText "\\u00" = [ascii '\\', ascii 'u', ascii '0', ascii '0'] := rfl
    simp only [opening, List.cons_append, List.nil_append]
    rw [readString, if_neg (by decide), if_pos rfl, readString, if_pos rfl]
    simp only [readString, List.cons_append, List.nil_append, unit]
  | plain quote backslash printable =>
    simp only [List.cons_append, List.nil_append]
    rw [readString, if_neg quote, if_neg backslash, if_neg printable]

theorem readString_written (bytes rest : Payload) :
    readString .plain (bytes.flatMap escapeByte ++ ascii '"' :: rest) = some (bytes.map pieceOf, rest) := by
  induction bytes with
  | nil => rw [List.flatMap_nil, List.nil_append, readString, if_pos rfl, List.map_nil]
  | cons b bytes ih => rw [List.flatMap_cons, List.append_assoc, readString_escapeByte, ih]; rfl

/-- A control character that is a code unit is one byte. -/
theorem utf8EncodeChar_control : ∀ b : Fin 32, String.utf8EncodeChar (Char.ofNat b.val) = [b.val.toUInt8] := by
  decide

theorem pieceBytes_cons (b : UInt8) (pieces : List Piece) :
    pieceBytes (pieceOf b :: pieces) = (pieceBytes pieces).map (b :: ·) := by
  unfold pieceOf
  split
  · next control =>
    have one := utf8EncodeChar_control ⟨b.toNat, control.1⟩
    -- a control character is no half of a pair of code units, and stands for itself
    have small : b.toNat < 0x20 := control.1
    have low : (0xD800 ≤ b.toNat && b.toNat < 0xDC00) = false := by simp; omega
    have high : (0xDC00 ≤ b.toNat && b.toNat < 0xE000) = false := by simp; omega
    rw [pieceBytes.eq_def]
    simp [low, high, one]
  · rw [pieceBytes]

theorem pieceBytes_written (bytes : Payload) : pieceBytes (bytes.map pieceOf) = some bytes := by
  induction bytes with
  | nil => rfl
  | cons b bytes ih => rw [List.map_cons, pieceBytes_cons, ih, Option.map_some]

/-- The text of a string that has been written is the text that it was written for. -/
theorem text?_piecesOf (s : String) : text? (piecesOf s) = some s := by
  rw [text?, piecesOf, pieceBytes_written, Option.bind_some, text?_ofText]

end Lookout.Json
