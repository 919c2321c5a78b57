import JobControl.Text.Utf8

/-!
# Characters of Unicode text

What the UTF-8 locale of the utilities says of a character, given by its code point: its
classes (space, blank, letter, digit, printable, ...), its partner in the other case, and the
columns it takes on a terminal; and how a byte string falls into characters.

* `Text.charAt?` reads the well-formed character that starts at a place of a byte string;
  a byte that starts none is no character, and the utilities step over it alone;
  `Text.charBefore?` reads the one that ends at a place.
* `Unicode.isSpace`, `isBlank`, `isAlpha`, `isDigit`, `isAlnum`, `isUpper`, `isLower`,
  `isPrint`, `isGraph`, `isPunct`, `isCntrl` and `isXDigit` are the classes;
* `Unicode.toLower` and `Unicode.toUpper` map the cases of the alphabets that have them
  (Latin, Greek, Cyrillic, Armenian, the full-width Latin letters);
* `Unicode.width` is 0 for a combining or zero-width character, 2 for a wide one (the East
  Asian scripts, most emoji), 1 otherwise.
-/

namespace JobControl.Text

/-- The well-formed character that starts at a place of a byte string: its code point and
its length in bytes. -/
def charAt? (bs : ByteArray) (i : Nat) : Option (Nat × Nat) :=
  match bs[i]? with
  | none => none
  | some b =>
    match leadShape b with
    | none => none
    | some (lo, hi, need) =>
      if goodTail bs (i + 1) lo hi need = need then some (codePoint bs i need, need + 1) else none

/-- The well-formed character that ends at a place of a byte string: its code point and its
length in bytes. -/
def charBefore? (bs : ByteArray) (i : Nat) : Option (Nat × Nat) :=
  [1, 2, 3, 4].findSome? fun k =>
    if k ≤ i then
      match charAt? bs (i - k) with
      | some (c, n) => if n = k then some (c, n) else none
      | none => none
    else none

namespace Unicode

/-- Whether a code point lies in one of some ranges. -/
def inRanges (c : Nat) (ranges : List (Nat × Nat)) : Bool :=
  ranges.any fun (lo, hi) => lo ≤ c && c ≤ hi

/-- White space: the ASCII controls from tab to carriage return, the space, and the spaces of
Unicode that do not forbid a line break. -/
def isSpace (c : Nat) : Bool :=
  inRanges c [(0x09, 0x0D), (0x20, 0x20), (0x1680, 0x1680), (0x2000, 0x2006), (0x2008, 0x200A),
    (0x2028, 0x2029), (0x205F, 0x205F), (0x3000, 0x3000)]

/-- Blanks: the white space that does not end a line. -/
def isBlank (c : Nat) : Bool :=
  inRanges c [(0x09, 0x09), (0x20, 0x20), (0x1680, 0x1680), (0x2000, 0x2006), (0x2008, 0x200A),
    (0x205F, 0x205F), (0x3000, 0x3000)]

/-- The decimal digits, which are those of ASCII only. -/
def isDigit (c : Nat) : Bool :=
  0x30 ≤ c && c ≤ 0x39

/-- The hexadecimal digits of ASCII. -/
def isXDigit (c : Nat) : Bool :=
  isDigit c || (0x41 ≤ c && c ≤ 0x46) || (0x61 ≤ c && c ≤ 0x66)

/-- The lower-case partner of an upper-case letter. -/
def lowerOf? (c : Nat) : Option Nat :=
  if 0x41 ≤ c && c ≤ 0x5A then some (c + 32)
  else if c < 0xC0 then none
  else if c ≤ 0xDE then if c = 0xD7 then none else some (c + 32)
  else if c = 0x130 then some 0x69
  else if 0x100 ≤ c && c ≤ 0x137 then if c % 2 = 0 then some (c + 1) else none
  else if 0x139 ≤ c && c ≤ 0x148 then if c % 2 = 1 then some (c + 1) else none
  else if 0x14A ≤ c && c ≤ 0x177 then if c % 2 = 0 then some (c + 1) else none
  else if c = 0x178 then some 0xFF
  else if 0x179 ≤ c && c ≤ 0x17E then if c % 2 = 1 then some (c + 1) else none
  else if c = 0x386 then some 0x3AC
  else if 0x388 ≤ c && c ≤ 0x38A then some (c + 37)
  else if c = 0x38C then some 0x3CC
  else if 0x38E ≤ c && c ≤ 0x38F then some (c + 63)
  else if 0x391 ≤ c && c ≤ 0x3AB then if c = 0x3A2 then none else some (c + 32)
  else if 0x400 ≤ c && c ≤ 0x40F then some (c + 80)
  else if 0x410 ≤ c && c ≤ 0x42F then some (c + 32)
  else if 0x460 ≤ c && c ≤ 0x481 then if c % 2 = 0 then some (c + 1) else none
  else if 0x48A ≤ c && c ≤ 0x4BF then if c % 2 = 0 then some (c + 1) else none
  else if c = 0x4C0 then some 0x4CF
  else if 0x4C1 ≤ c && c ≤ 0x4CE then if c % 2 = 1 then some (c + 1) else none
  else if 0x4D0 ≤ c && c ≤ 0x52F then if c % 2 = 0 then some (c + 1) else none
  else if 0x531 ≤ c && c ≤ 0x556 then some (c + 48)
  else if 0x1E00 ≤ c && c ≤ 0x1E95 then if c % 2 = 0 then some (c + 1) else none
  else if 0x1EA0 ≤ c && c ≤ 0x1EFF then if c % 2 = 0 then some (c + 1) else none
  else if 0xFF21 ≤ c && c ≤ 0xFF3A then some (c + 32)
  else none

/-- The upper-case partner of a lower-case letter. -/
def upperOf? (c : Nat) : Option Nat :=
  if 0x61 ≤ c && c ≤ 0x7A then some (c - 32)
  else if c = 0xB5 then some 0x39C
  else if c < 0xE0 then none
  else if c ≤ 0xFE then if c = 0xF7 then none else some (c - 32)
  else if c = 0xFF then some 0x178
  else if c = 0x131 then some 0x49
  else if c = 0x17F then some 0x53
  else if 0x100 ≤ c && c ≤ 0x137 then if c % 2 = 1 then some (c - 1) else none
  else if 0x139 ≤ c && c ≤ 0x148 then if c % 2 = 0 then some (c - 1) else none
  else if 0x14A ≤ c && c ≤ 0x177 then if c % 2 = 1 then some (c - 1) else none
  else if 0x179 ≤ c && c ≤ 0x17E then if c % 2 = 0 then some (c - 1) else none
  else if c = 0x3AC then some 0x386
  else if 0x3AD ≤ c && c ≤ 0x3AF then some (c - 37)
  else if c = 0x3C2 then some 0x3A3
  else if 0x3B1 ≤ c && c ≤ 0x3CB then some (c - 32)
  else if c = 0x3CC then some 0x38C
  else if 0x3CD ≤ c && c ≤ 0x3CE then some (c - 63)
  else if 0x430 ≤ c && c ≤ 0x44F then some (c - 32)
  else if 0x450 ≤ c && c ≤ 0x45F then some (c - 80)
  else if 0x460 ≤ c && c ≤ 0x481 then if c % 2 = 1 then some (c - 1) else none
  else if 0x48A ≤ c && c ≤ 0x4BF then if c % 2 = 1 then some (c - 1) else none
  else if c = 0x4CF then some 0x4C0
  else if 0x4C1 ≤ c && c ≤ 0x4CE then if c % 2 = 0 then some (c - 1) else none
  else if 0x4D0 ≤ c && c ≤ 0x52F then if c % 2 = 1 then some (c - 1) else none
  else if 0x561 ≤ c && c ≤ 0x586 then some (c - 48)
  else if 0x1E00 ≤ c && c ≤ 0x1E95 then if c % 2 = 1 then some (c - 1) else none
  else if 0x1EA0 ≤ c && c ≤ 0x1EFF then if c % 2 = 1 then some (c - 1) else none
  else if 0xFF41 ≤ c && c ≤ 0xFF5A then some (c - 32)
  else none

/-- A character in lower case. -/
def toLower (c : Nat) : Nat :=
  (lowerOf? c).getD c

/-- A character in upper case. -/
def toUpper (c : Nat) : Nat :=
  (upperOf? c).getD c

/-- Upper-case letters: those with a lower-case partner. -/
def isUpper (c : Nat) : Bool :=
  (lowerOf? c).isSome

/-- Lower-case letters: those with an upper-case partner, and `ß`. -/
def isLower (c : Nat) : Bool :=
  (upperOf? c).isSome || c = 0xDF

/-- Letters: the cased ones, and the letters of the scripts without case. -/
def isAlpha (c : Nat) : Bool :=
  isUpper c || isLower c ||
    inRanges c [(0xAA, 0xAA), (0xBA, 0xBA), (0x138, 0x138), (0x180, 0x24F), (0x250, 0x2C1),
      (0x2C6, 0x2D1), (0x2E0, 0x2E4), (0x370, 0x373), (0x376, 0x377), (0x37B, 0x37D),
      (0x3D0, 0x3FF), (0x5D0, 0x5EA), (0x620, 0x64A), (0x671, 0x6D3), (0x904, 0x939),
      (0xE01, 0xE30), (0x10A0, 0x10FF), (0x1100, 0x11FF), (0x1F00, 0x1FFC),
      (0x3041, 0x3096), (0x30A1, 0x30FA), (0x3400, 0x4DBF), (0x4E00, 0x9FFF),
      (0xAC00, 0xD7A3), (0xF900, 0xFAFF), (0xFF66, 0xFF9D), (0x20000, 0x2FFFD)]

/-- Letters and digits. -/
def isAlnum (c : Nat) : Bool :=
  isAlpha c || isDigit c

/-- Control characters: those of ASCII and Latin-1, and the separators of lines and
paragraphs. -/
def isCntrl (c : Nat) : Bool :=
  c < 0x20 || (0x7F ≤ c && c < 0xA0) || c = 0x2028 || c = 0x2029

/-- Printable characters: all but the controls, the surrogates and the non-characters. -/
def isPrint (c : Nat) : Bool :=
  !isCntrl c && c ≤ 0x10FFFF && !(0xD800 ≤ c && c ≤ 0xDFFF) && !(0xFDD0 ≤ c && c ≤ 0xFDEF) &&
    c % 0x10000 < 0xFFFE

/-- Printable characters that are not white space. -/
def isGraph (c : Nat) : Bool :=
  isPrint c && !isSpace c

/-- Punctuation: printable characters that are neither space nor letter nor digit. -/
def isPunct (c : Nat) : Bool :=
  isGraph c && !isAlnum c

/-- The characters that take no column: the combining marks and the invisible format
characters. -/
def isZeroWidth (c : Nat) : Bool :=
  inRanges c [(0x300, 0x36F), (0x483, 0x489), (0x591, 0x5BD), (0x5BF, 0x5BF), (0x5C1, 0x5C2),
    (0x5C4, 0x5C5), (0x5C7, 0x5C7), (0x610, 0x61A), (0x64B, 0x65F), (0x670, 0x670),
    (0x6D6, 0x6DC), (0x6DF, 0x6E4), (0x6E7, 0x6E8), (0x6EA, 0x6ED), (0x900, 0x902),
    (0x93A, 0x93A), (0x93C, 0x93C), (0x941, 0x948), (0x94D, 0x94D), (0x951, 0x957),
    (0xE31, 0xE31), (0xE34, 0xE3A), (0xE47, 0xE4E), (0x1160, 0x11FF), (0x1AB0, 0x1AFF),
    (0x1DC0, 0x1DFF), (0x200B, 0x200F), (0x202A, 0x202E), (0x2060, 0x2064), (0x20D0, 0x20FF),
    (0x302A, 0x302D), (0x3099, 0x309A), (0xFE00, 0xFE0F), (0xFE20, 0xFE2F), (0xFEFF, 0xFEFF),
    (0x1D167, 0x1D169), (0xE0001, 0xE0001), (0xE0020, 0xE007F), (0xE0100, 0xE01EF)]

/-- The characters that take two columns: the wide and full-width ones of East Asia, and
most emoji. -/
def isWide (c : Nat) : Bool :=
  inRanges c [(0x1100, 0x115F), (0x231A, 0x231B), (0x2329, 0x232A), (0x23E9, 0x23EC),
    (0x23F0, 0x23F0), (0x23F3, 0x23F3), (0x25FD, 0x25FE), (0x2614, 0x2615), (0x2648, 0x2653),
    (0x267F, 0x267F), (0x2693, 0x2693), (0x26A1, 0x26A1), (0x26AA, 0x26AB), (0x26BD, 0x26BE),
    (0x26C4, 0x26C5), (0x26CE, 0x26CE), (0x26D4, 0x26D4), (0x26EA, 0x26EA), (0x26F2, 0x26F3),
    (0x26F5, 0x26F5), (0x26FA, 0x26FA), (0x26FD, 0x26FD), (0x2705, 0x2705), (0x270A, 0x270B),
    (0x2728, 0x2728), (0x274C, 0x274C), (0x274E, 0x274E), (0x2753, 0x2755), (0x2757, 0x2757),
    (0x2795, 0x2797), (0x27B0, 0x27B0), (0x27BF, 0x27BF), (0x2B1B, 0x2B1C), (0x2B50, 0x2B50),
    (0x2B55, 0x2B55), (0x2E80, 0x3029), (0x302E, 0x303E), (0x3041, 0x3098), (0x309B, 0x33FF),
    (0x3400, 0x4DBF), (0x4E00, 0x9FFF), (0xA000, 0xA4CF), (0xA960, 0xA97F), (0xAC00, 0xD7A3),
    (0xF900, 0xFAFF), (0xFE10, 0xFE19), (0xFE30, 0xFE6F), (0xFF00, 0xFF60), (0xFFE0, 0xFFE6),
    (0x16FE0, 0x16FE4), (0x17000, 0x18CFF), (0x1B000, 0x1B2FF), (0x1F004, 0x1F004),
    (0x1F0CF, 0x1F0CF), (0x1F18E, 0x1F18E), (0x1F191, 0x1F19A), (0x1F200, 0x1F251),
    (0x1F300, 0x1F320), (0x1F32D, 0x1F335), (0x1F337, 0x1F37C), (0x1F37E, 0x1F393),
    (0x1F3A0, 0x1F3CA), (0x1F3CF, 0x1F3D3), (0x1F3E0, 0x1F3F0), (0x1F3F4, 0x1F3F4),
    (0x1F3F8, 0x1F43E), (0x1F440, 0x1F440), (0x1F442, 0x1F4FC), (0x1F4FF, 0x1F53D),
    (0x1F54B, 0x1F54E), (0x1F550, 0x1F567), (0x1F57A, 0x1F57A), (0x1F595, 0x1F596),
    (0x1F5A4, 0x1F5A4), (0x1F5FB, 0x1F64F), (0x1F680, 0x1F6C5), (0x1F6CC, 0x1F6CC),
    (0x1F6D0, 0x1F6D2), (0x1F6D5, 0x1F6D7), (0x1F6DC, 0x1F6DF), (0x1F6EB, 0x1F6EC),
    (0x1F6F4, 0x1F6FC), (0x1F7E0, 0x1F7EB), (0x1F7F0, 0x1F7F0), (0x1F90C, 0x1F93A),
    (0x1F93C, 0x1F945), (0x1F947, 0x1F9FF), (0x1FA70, 0x1FAFF), (0x20000, 0x2FFFD),
    (0x30000, 0x3FFFD)]

/-- The columns a printable character takes. -/
def width (c : Nat) : Nat :=
  if isZeroWidth c then 0 else if isWide c then 2 else 1

example : toUpper 0xE9 = 0xC9 := by decide
example : toLower 0x3A3 = 0x3C3 := by decide
example : isAlpha 0xE9 && !isAlpha 0x31 := by decide

end Unicode

end JobControl.Text
