/-!
# Blanks and trimming

A blank is a character with the Unicode property White_Space. Trimming removes blanks from the two
ends of a text and nothing from within it.
-/

namespace Lookout.Text
set_option autoImplicit false

/-- The characters with the Unicode property White_Space: 25 of them, in ten ranges. -/
def isBlank (c : Char) : Bool :=
  let n := c.toNat
  (0x09 ≤ n && n ≤ 0x0D) || n == 0x20 || n == 0x85 || n == 0xA0 || n == 0x1680 ||
    (0x2000 ≤ n && n ≤ 0x200A) || n == 0x2028 || n == 0x2029 || n == 0x202F || n == 0x205F || n == 0x3000

/-- `s` without the blanks it begins with. -/
def trimStart (s : List Char) : List Char :=
  s.dropWhile isBlank

/-- `s` without the blanks it ends with. -/
def trimEnd (s : List Char) : List Char :=
  (s.reverse.dropWhile isBlank).reverse

/-- `s` without the blanks around it. -/
def trim (s : List Char) : List Char :=
  trimEnd (trimStart s)

/-- The text `s` without the blanks around it. -/
def trimmed (s : String) : String :=
  String.ofList (trim s.toList)

theorem trimStart_eq_self {c : Char} {s : List Char} (h : isBlank c = false) :
    trimStart (c :: s) = c :: s := by
  simp [trimStart, h]

theorem trimEnd_append_of_not_blank {c : Char} {s : List Char} (h : isBlank c = false) :
    trimEnd (s ++ [c]) = s ++ [c] := by
  simp [trimEnd, h]

end Lookout.Text
