import ServiceCall.Text.Mark

/-!
# Writing direction

Most characters are written from left to right, those of some scripts from right to left, and
punctuation takes the direction of what stands around it. Digits keep their own direction in either,
and there are two kinds of them, which do not mix: those that the Arabic script has for itself, and
all others. The classes are those of the Unicode character database, with the kinds of separators
and of punctuation taken together.

Like the table of marks, this one leaves out characters that no host name has.
-/

namespace ServiceCall.Text

inductive Direction where
  | leftToRight
  | rightToLeft
  | number
  | arabicNumber
  | neutral
  /-- That of the character in front. -/
  | nonspacing
  deriving DecidableEq

/-- Ranges of characters outside ASCII that are neither marks nor written from left to right. -/
def directionRanges : List (Nat × Nat × Direction) := [
  (0xA1, 0xD7, .neutral), (0xF7, 0xF7, .neutral), (0x2B9, 0x2BA, .neutral),
  (0x2C2, 0x2CF, .neutral), (0x2D2, 0x2ED, .neutral), (0x2EF, 0x2FF, .neutral),
  (0x375, 0x375, .neutral), (0x3F6, 0x3F6, .neutral), (0x58A, 0x58F, .neutral),
  (0x5BE, 0x5F4, .rightToLeft), (0x606, 0x607, .neutral), (0x608, 0x608, .rightToLeft),
  (0x609, 0x60A, .neutral), (0x60B, 0x60B, .rightToLeft), (0x60C, 0x60C, .neutral),
  (0x60D, 0x60D, .rightToLeft), (0x60E, 0x60F, .neutral), (0x61B, 0x64A, .rightToLeft),
  (0x660, 0x669, .arabicNumber), (0x66A, 0x66A, .neutral), (0x66B, 0x66C, .arabicNumber),
  (0x66D, 0x6D5, .rightToLeft), (0x6DE, 0x6DE, .neutral), (0x6E5, 0x6E6, .rightToLeft),
  (0x6E9, 0x6E9, .neutral), (0x6EE, 0x6EF, .rightToLeft), (0x6F0, 0x6F9, .number),
  (0x6FA, 0x7F5, .rightToLeft), (0x7F6, 0x7F9, .neutral), (0x7FA, 0x8C9, .rightToLeft),
  (0x9F2, 0x9F3, .neutral), (0x9FB, 0x9FB, .neutral), (0xAF1, 0xAF1, .neutral),
  (0xBF3, 0xBFA, .neutral), (0xC78, 0xC7E, .neutral), (0xE3F, 0xE3F, .neutral),
  (0xF3A, 0xF3D, .neutral), (0x1390, 0x1399, .neutral), (0x1400, 0x1400, .neutral),
  (0x169B, 0x169C, .neutral), (0x17DB, 0x17DB, .neutral), (0x17F0, 0x180A, .neutral),
  (0x1940, 0x1945, .neutral), (0x19DE, 0x19FF, .neutral), (0x200C, 0x214D, .neutral),
  (0x218A, 0x2335, .neutral), (0x237B, 0x2394, .neutral), (0x2396, 0x26AB, .neutral),
  (0x26AD, 0x27FF, .neutral), (0x2900, 0x2BFF, .neutral), (0x2CE5, 0x2CEA, .neutral),
  (0x2CF9, 0x2CFF, .neutral), (0x2E00, 0x3004, .neutral), (0x3008, 0x3020, .neutral),
  (0x3030, 0x3030, .neutral), (0x3037, 0x3037, .neutral), (0x303D, 0x303F, .neutral),
  (0x30A0, 0x30A0, .neutral), (0x30FB, 0x30FB, .neutral), (0x31C0, 0x31E5, .neutral),
  (0x4DC0, 0x4DFF, .neutral), (0xA490, 0xA4C6, .neutral), (0xA60D, 0xA60F, .neutral),
  (0xA673, 0xA67F, .neutral), (0xA700, 0xA721, .neutral), (0xA788, 0xA788, .neutral),
  (0xA828, 0xA82B, .neutral), (0xA838, 0xA839, .neutral), (0xA874, 0xA877, .neutral),
  (0xAB6A, 0xAB6B, .neutral), (0xFBB2, 0xFBC2, .rightToLeft), (0xFBC3, 0xFE46, .neutral),
  (0xFE73, 0xFE73, .rightToLeft), (0x10101, 0x10101, .neutral), (0x10140, 0x1018C, .neutral),
  (0x10190, 0x101A0, .neutral), (0x102E1, 0x102FB, .number), (0x10800, 0x1091B, .rightToLeft),
  (0x1091F, 0x1091F, .neutral), (0x10920, 0x10B35, .rightToLeft), (0x10B39, 0x10B3F, .neutral),
  (0x10B40, 0x10D23, .rightToLeft), (0x10D30, 0x10D49, .arabicNumber),
  (0x10D4A, 0x10D4F, .rightToLeft), (0x10D6E, 0x10D6E, .neutral), (0x10D6F, 0x10D8F, .rightToLeft),
  (0x10E60, 0x10E7E, .arabicNumber), (0x10E80, 0x10EC7, .rightToLeft), (0x10ED0, 0x10ED8, .neutral),
  (0x10F00, 0x10FF6, .rightToLeft), (0x11052, 0x11065, .neutral), (0x11660, 0x1166C, .neutral),
  (0x11FD5, 0x11FF1, .neutral), (0x16FE2, 0x16FE2, .neutral), (0x1CC00, 0x1CEF0, .neutral),
  (0x1D1E9, 0x1D245, .neutral), (0x1D300, 0x1D356, .neutral), (0x1E2FF, 0x1E2FF, .neutral),
  (0x1E800, 0x1ED3D, .rightToLeft), (0x1EEF0, 0x1F12F, .neutral), (0x1F16D, 0x1F16F, .neutral),
  (0x1F1AD, 0x1F1AD, .neutral), (0x1F260, 0x1FBFA, .neutral)]

namespace Direction

def ofChar (c : Char) : Direction :=
  if c.toNat < 0x80 then
    if c.isAlpha then leftToRight else if c.isDigit then number else neutral
  else if Mark.isNonspacing c then nonspacing
  else ((directionRanges.find? fun r ↦ r.1 ≤ c.toNat && c.toNat ≤ r.2.1).map (·.2.2)).getD
    leftToRight

/-- Whether a text with such a character is one in which directions have to be looked at. -/
def isRightToLeft (d : Direction) : Bool := d = rightToLeft || d = arabicNumber

/-- Whether a text can be shown among others without changing places with them. It begins with a
letter, which gives its direction, and ends with a letter or a digit, up to marks; no letter of it
has the other direction, and the digits of a text from right to left are all of one kind. -/
def isSettled (ds : List Direction) : Bool :=
  match ds with
  | [] => true
  | first :: rest =>
    let rest := (rest.reverse.dropWhile (· = nonspacing)).reverse
    match first with
    | leftToRight =>
      rest.all (!·.isRightToLeft) && rest.getLast?.all [leftToRight, number].contains
    | rightToLeft =>
      rest.all (· ≠ leftToRight) &&
        rest.getLast?.all [rightToLeft, number, arabicNumber].contains &&
        !(rest.contains number && rest.contains arabicNumber)
    | _ => false

example : isSettled ("a1-b".toList.map ofChar) = true := by decide +kernel
example : isSettled ("א-ב".toList.map ofChar) = true := by decide +kernel
example : isSettled ("אaב".toList.map ofChar) = false := by decide +kernel
example : isSettled ("א1١".toList.map ofChar) = false := by decide +kernel

end Direction

end ServiceCall.Text
