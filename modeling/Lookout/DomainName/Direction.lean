import Lookout.Text.Mark

/-!
# The direction of labels

Letters of some scripts run from right to left. In a domain name that holds any of them each label must
keep to one direction, so that it cannot be shown as another name: it begins with a letter, the
characters in it suit that letter's direction, and it ends with a letter or a number.
-/

namespace Lookout.DomainName
set_option autoImplicit false
open Text

/-- How a character takes part in the direction of its label. Marks take the direction of the letter
before them. -/
inductive Direction where
  | left
  | right
  | europeanNumber
  | arabicNumber
  | mark
  | neutral
deriving DecidableEq

namespace Direction

/-- Ranges of numbers of right-to-left scripts that are not European. -/
def arabicNumbers : List (Nat × Nat) :=
  [(0x660, 0x669), (0x66B, 0x66C), (0x10D30, 0x10D49), (0x10E60, 0x10E7E)]

/-- Ranges of European numbers. -/
def europeanNumbers : List (Nat × Nat) :=
  [(0x30, 0x39), (0x6F0, 0x6F9), (0x102E1, 0x102FB)]

/-- Ranges of characters without a direction. -/
def neutrals : List (Nat × Nat) :=
  [(0x0, 0x2F), (0x3A, 0x60), (0x7B, 0x7F), (0xA1, 0xD7), (0xF7, 0xF7), (0x2B9, 0x2BA), (0x2C2, 0x2CF),
    (0x2D2, 0x2ED), (0x2EF, 0x2FF), (0x375, 0x375), (0x3F6, 0x3F6), (0x58A, 0x58F), (0x606, 0x607),
    (0x609, 0x60A), (0x60C, 0x60C), (0x60E, 0x60F), (0x66A, 0x66A), (0x6DE, 0x6DE), (0x6E9, 0x6E9),
    (0x7F6, 0x7F9), (0x9F2, 0x9F3), (0x9FB, 0x9FB), (0xAF1, 0xAF1), (0xBF3, 0xBFA), (0xC78, 0xC7E),
    (0xE3F, 0xE3F), (0xF3A, 0xF3D), (0x1390, 0x1399), (0x1400, 0x1400), (0x169B, 0x169C), (0x17DB, 0x17DB),
    (0x17F0, 0x180A), (0x1940, 0x1945), (0x19DE, 0x19FF), (0x200C, 0x214D), (0x218A, 0x2335),
    (0x237B, 0x2394), (0x2396, 0x2426), (0x2440, 0x26AB), (0x26AD, 0x27FF), (0x2900, 0x2BFF),
    (0x2CE5, 0x2CEA), (0x2CF9, 0x2CFF), (0x2E00, 0x2FFB), (0x3001, 0x3004), (0x3008, 0x3020),
    (0x3030, 0x3030), (0x3037, 0x3037), (0x303D, 0x303F), (0x30A0, 0x30A0), (0x30FB, 0x30FB),
    (0x31C0, 0x31E3), (0x4DC0, 0x4DFF), (0xA490, 0xA4C6), (0xA60D, 0xA60F), (0xA673, 0xA67F),
    (0xA700, 0xA721), (0xA788, 0xA788), (0xA828, 0xA82B), (0xA838, 0xA839), (0xA874, 0xA877),
    (0xAB6A, 0xAB6B), (0xFD3E, 0xFE46), (0x10101, 0x10101), (0x10140, 0x1018C), (0x10190, 0x101A0),
    (0x1091F, 0x1091F), (0x10B39, 0x10B3F), (0x11052, 0x11065), (0x11660, 0x1166C), (0x11FD5, 0x11FF1),
    (0x16FE2, 0x16FE2), (0x1D1E9, 0x1D245), (0x1D300, 0x1D356), (0x1E2FF, 0x1E2FF), (0x1EEF0, 0x1F12F),
    (0x1F16D, 0x1F16F), (0x1F1AD, 0x1F1AD), (0x1F260, 0x1F8B1), (0x1F900, 0x1FA88), (0x1FA90, 0x1FABD),
    (0x1FABF, 0x1FAC5), (0x1FACE, 0x1FADB), (0x1FAE0, 0x1FAE8), (0x1FAF0, 0x1FBCA)]

/-- Ranges of letters that run from right to left, given that none of the tables above has them. -/
def rightToLeft : List (Nat × Nat) :=
  [(0x5BE, 0x8C9), (0xFBB2, 0xFE73), (0x10800, 0x10FF6), (0x1E800, 0x1ED3D)]

def ofChar (c : Char) : Direction :=
  let n := c.toNat
  if inRanges europeanNumbers n then europeanNumber
  else if inRanges neutrals n then neutral
  else if isNonspacingMark c then mark
  else if inRanges arabicNumbers n then arabicNumber
  else if inRanges rightToLeft n then right
  else left

end Direction

/-- Whether a character makes its domain name one of right-to-left letters. -/
def isRightToLeft (c : Char) : Bool :=
  Direction.ofChar c == .right || Direction.ofChar c == .arabicNumber

/-- Whether a label keeps to one direction. -/
def keepsDirection (label : List Char) : Bool :=
  let directions := label.map Direction.ofChar
  let final := directions.reverse.find? (· != .mark)
  match directions.head? with
  | none => true
  | some .left =>
    directions.all ([.left, .europeanNumber, .neutral, .mark].contains ·) &&
      final.any ([.left, .europeanNumber].contains ·)
  | some .right =>
    directions.all (· != .left) && final.any ([.right, .europeanNumber, .arabicNumber].contains ·) &&
      !(directions.contains .europeanNumber && directions.contains .arabicNumber)
  | some _ => false

end Lookout.DomainName
