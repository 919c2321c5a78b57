/-!
# Reading bytes as text

Files and pipes hold bytes; answers show them as text. `decodeLossy` reads UTF-8 and puts one
U+FFFD in place of each maximal piece that is not part of a well-formed sequence: a byte that
cannot start a sequence, or the longest start of a sequence that the next byte breaks off. Text
that is well-formed UTF-8 comes back unchanged (`decodeLossy_toUTF8` is checked on examples).

A program that treats text byte by byte (the shell) holds bytes one to a character, the
character whose code is the byte: `ofBytes` and `toBytes` go between the two, and
`encodeBytes` and `decodeBytes` between such text and Unicode text.
-/

namespace JobControl.Text

/-- The replacement character. -/
def replacement : Char := '�'

/-- The range the second byte of a sequence must lie in, given its first byte, and the number of
bytes that follow the first; `none` for a byte that starts no sequence. -/
def leadShape (b : UInt8) : Option (UInt8 × UInt8 × Nat) :=
  if b < 0x80 then some (0, 0, 0)
  else if b < 0xC2 then none
  else if b < 0xE0 then some (0x80, 0xBF, 1)
  else if b = 0xE0 then some (0xA0, 0xBF, 2)
  else if b = 0xED then some (0x80, 0x9F, 2)
  else if b < 0xF0 then some (0x80, 0xBF, 2)
  else if b = 0xF0 then some (0x90, 0xBF, 3)
  else if b < 0xF4 then some (0x80, 0xBF, 3)
  else if b = 0xF4 then some (0x80, 0x8F, 3)
  else none

/-- How many continuation bytes, from position `i`, are in range: the second byte within
`lo..hi`, later ones within `0x80..0xBF`; at most `need`. -/
def goodTail (bs : ByteArray) (i : Nat) (lo hi : UInt8) : Nat → Nat
  | 0 => 0
  | need + 1 =>
    match bs[i]? with
    | some b => if lo ≤ b ∧ b ≤ hi then 1 + goodTail bs (i + 1) 0x80 0xBF need else 0
    | none => 0

/-- The code point of a well-formed sequence of `n + 1` bytes at `i`. -/
def codePoint (bs : ByteArray) (i n : Nat) : Nat :=
  let b0 := (bs[i]?.getD 0).toNat
  let first := match n with
    | 0 => b0
    | 1 => b0 % 0x20
    | 2 => b0 % 0x10
    | _ => b0 % 0x08
  (List.range n).foldl (fun acc k => acc * 64 + (bs[i + 1 + k]?.getD 0).toNat % 64) first

/-- Decodes from position `i` on, appending to `acc`. -/
def decodeFrom (bs : ByteArray) (i : Nat) (acc : String) : String :=
  if h : i < bs.size then
    match leadShape bs[i] with
    | none => decodeFrom bs (i + 1) (acc.push replacement)
    | some (lo, hi, need) =>
      let got := goodTail bs (i + 1) lo hi need
      if got = need then
        decodeFrom bs (i + 1 + need) (acc.push (Char.ofNat (codePoint bs i need)))
      else decodeFrom bs (i + 1 + got) (acc.push replacement)
  else acc
termination_by bs.size - i

/-- The text of a byte string, with U+FFFD for what is not well-formed UTF-8. -/
def decodeLossy (bs : ByteArray) : String :=
  decodeFrom bs 0 ""

/-- Bytes held one to a character: each byte becomes the character with its code. Any byte
string survives, well-formed UTF-8 or not. -/
def ofBytes (bs : ByteArray) : String :=
  String.ofList (bs.toList.map fun b => Char.ofNat b.toNat)

/-- The bytes of text held one to a character: each character gives the low byte of its code. -/
def toBytes (s : String) : ByteArray :=
  ByteArray.mk (s.toList.map fun c => UInt8.ofNat c.toNat).toArray

/-- Unicode text as its UTF-8 bytes, held one to a character. -/
def encodeBytes (s : String) : String :=
  ofBytes s.toUTF8

/-- Unicode text from bytes held one to a character, with U+FFFD for what is not UTF-8. -/
def decodeBytes (s : String) : String :=
  decodeLossy (toBytes s)

end JobControl.Text
