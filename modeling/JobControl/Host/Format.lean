import JobControl.Host.Binary
import JobControl.Host.Quoting

/-!
# Formatted output

The format language of the `printf` utility and the escapes of `echo`:

* `Format.escape` reads a backslash escape (`\n`, `\t`, `\\`, `\0NNN` or `\NNN` octal, `\xHH`,
  `\c` which ends all output);
* `Format.render` fills a format with arguments: `%s`, `%b` (text with escapes), `%q` (text
  quoted for the shell), `%c`, `%d`
  and `%i`, `%o`, `%u`, `%x`, `%X`, `%f`, `%e`, `%g`, `%a` (and their capitals), `%%`, with flags
  `-`, `+`, space, `#`, `0`, a width and a precision (either may be `*`). The format is used
  again while arguments remain. A numeric argument may be decimal, octal, hexadecimal, or `'c`
  for the code of a character; the number at its front counts, and an argument that is no
  number, or more than one, is a complaint. Floating conversions hold the argument in a
  significand of the given number of bits.

Output is bytes: an octal or hexadecimal escape writes one byte.
-/

namespace JobControl.Host

namespace Format

/-- Which escapes a text takes. -/
structure Escapes where
  /-- `\NNN` without a leading zero is octal. -/
  bareOctal : Bool
  /-- `\xHH` is hexadecimal. -/
  hex : Bool
  /-- `\e` is the escape character. -/
  escapeChar : Bool
  /-- `\"` and `\'` stand for the quote. -/
  quotes : Bool

/-- The value of an octal or hexadecimal digit. -/
def digitValue (base : Nat) (c : Char) : Option Nat :=
  if '0' ≤ c && c ≤ '7' then some (c.toNat - '0'.toNat)
  else if base = 16 && c.isDigit then some (c.toNat - '0'.toNat)
  else if base = 16 && 'a' ≤ c && c ≤ 'f' then some (c.toNat - 'a'.toNat + 10)
  else if base = 16 && 'A' ≤ c && c ≤ 'F' then some (c.toNat - 'A'.toNat + 10)
  else none

/-- Reads up to `n` digits of a base: the value, how many were read and what follows. -/
def digitsUpTo (base : Nat) : Nat → List Char → Nat × Nat × List Char
  | 0, cs => (0, 0, cs)
  | _ + 1, [] => (0, 0, [])
  | n + 1, c :: cs =>
    match digitValue base c with
    | none => (0, 0, c :: cs)
    | some d =>
      let (v, k, r) := digitsUpTo base n cs
      (d * Nat.pow base k + v, k + 1, r)

/-- What an escape after a backslash stands for. -/
inductive Escaped
  | bytes (b : ByteArray)
  | stop

/-- Reads an escape after a backslash: what it stands for and what follows. -/
def escape (e : Escapes) : List Char → Escaped × List Char
  | [] => (.bytes "\\".toUTF8, [])
  | c :: cs =>
    let one (s : String) := (Escaped.bytes s.toUTF8, cs)
    match c with
    | '\\' => one "\\"
    | 'a' => one "\x07"
    | 'b' => one "\x08"
    | 'f' => one "\x0c"
    | 'n' => one "\n"
    | 'r' => one "\r"
    | 't' => one "\t"
    | 'v' => one "\x0b"
    | 'c' => (.stop, cs)
    | 'e' => if e.escapeChar then one "\x1b" else (.bytes "\\e".toUTF8, cs)
    | '"' => if e.quotes then one "\"" else (.bytes "\\\"".toUTF8, cs)
    | '\'' => if e.quotes then one "'" else (.bytes "\\'".toUTF8, cs)
    | '0' =>
      let (v, _, r) := digitsUpTo 8 3 cs
      (.bytes (ByteArray.mk #[UInt8.ofNat (v % 256)]), r)
    | 'x' =>
      if e.hex then
        let (v, k, r) := digitsUpTo 16 2 cs
        if k = 0 then (.bytes "\\x".toUTF8, cs) else (.bytes (ByteArray.mk #[UInt8.ofNat v]), r)
      else (.bytes "\\x".toUTF8, cs)
    | d =>
      if e.bareOctal && '1' ≤ d && d ≤ '7' then
        let (v, _, r) := digitsUpTo 8 3 (d :: cs)
        (.bytes (ByteArray.mk #[UInt8.ofNat (v % 256)]), r)
      else (.bytes ("\\" ++ String.singleton d).toUTF8, cs)

/-- Writes a text with its escapes: the bytes, and whether `\c` ended the output. -/
def withEscapes (e : Escapes) : Nat → List Char → ByteArray × Bool
  | 0, _ => (ByteArray.empty, false)
  | _ + 1, [] => (ByteArray.empty, false)
  | fuel + 1, '\\' :: cs =>
    match escape e cs with
    | (.bytes b, r) =>
      let (rest, stop) := withEscapes e fuel r
      (b ++ rest, stop)
    | (.stop, _) => (ByteArray.empty, true)
  | fuel + 1, c :: cs =>
    let (rest, stop) := withEscapes e fuel cs
    ((String.singleton c).toUTF8 ++ rest, stop)

/-- The escapes of a `%b` argument: `\0NNN` octal, no bare octal. -/
def argumentEscapes : Escapes := ⟨false, false, false, false⟩

/-- The escapes of a format: bare octal, hexadecimal and quotes. -/
def formatEscapes : Escapes := ⟨true, true, true, true⟩

/-- A conversion of a format. -/
structure Spec where
  flags : List Char
  width : Option Nat
  precision : Option Nat
  conv : Char

/-- Reads a number from the front of a text. -/
def leadingNat (cs : List Char) : Option Nat × List Char :=
  let ds := cs.takeWhile Char.isDigit
  if ds.isEmpty then (none, cs) else ((String.ofList ds).toNat?, cs.drop ds.length)

/-- What the utility says about a format or an argument: nothing of a numeric argument was a
number, only its front, or it is beyond the range of the number it is held in; characters
after a character constant were left; a conversion is unknown (which ends the output); the
format was done with arguments left. -/
inductive Complaint
  | notNumber (arg : String)
  | partly (arg : String)
  | outOfRange (arg : String)
  | ignored (rest : String)
  | invalid (directive : String)
  | excess (arg : String)

/-- Whether a complaint makes the utility fail: warnings do not. -/
def Complaint.fails : Complaint → Bool
  | .ignored _ | .excess _ => false
  | _ => true

/-- The text of a complaint, with the quotes of the locale. -/
def Complaint.text : Complaint → String
  | .notNumber a => quoted a ++ ": expected a numeric value"
  | .partly a => quoted a ++ ": value not completely converted"
  | .outOfRange a => quoted a ++ ": Numerical result out of range"
  | .ignored rest => "warning: " ++ rest ++ ": character(s) following character constant have been ignored"
  | .invalid d => d ++ ": invalid conversion specification"
  | .excess a => "warning: ignoring excess arguments, starting with " ++ quoted a
where
  /-- An argument between the quotes of the locale. -/
  quoted (a : String) : String := "‘" ++ a ++ "’"

/-- Reads the number at the front of an argument, as `strtoimax` reads it: blanks, a sign,
then digits in the base its prefix gives (`0x` hexadecimal, `0` octal). The number and whether
nothing followed it; none when no number starts the argument. -/
def integerPrefix (cs : List Char) : Option (Int × Bool) :=
  let cs := cs.dropWhile (fun c => c = ' ' || c = '\t' || c = '\n' || c = '\r' || c = '\x0b' || c = '\x0c')
  let (neg, ds) := match cs with
    | '-' :: r => (true, r)
    | '+' :: r => (false, r)
    | r => (false, r)
  let (base, ds) := match ds with
    | '0' :: x :: r =>
      if (x = 'x' || x = 'X') && (r.head?.any fun c => (digitValue 16 c).isSome) then (16, r)
      else (8, ds)
    | r => (10, r)
  let digit (c : Char) : Option Nat :=
    if base = 10 then (if c.isDigit then some (c.toNat - '0'.toNat) else none) else digitValue base c
  let run := ds.takeWhile fun c => (digit c).isSome
  if run.isEmpty then none
  else
    let v := run.foldl (fun acc c => acc * base + (digit c).getD 0) 0
    some (if neg then -(v : Int) else v, (ds.drop run.length).isEmpty)

/-- The largest and smallest integers of 64 bits, and the largest without a sign. -/
def intMax : Int := 9223372036854775807

/-- The smallest integer of 64 bits. -/
def intMin : Int := -9223372036854775808

/-- The largest integer of 64 bits without a sign. -/
def uintMax : Nat := 18446744073709551615

/-- The code of a character constant (`'c` or `"c`), with the warning about what follows it;
none for an argument that is no character constant. -/
def constantOf (s : String) : Option (Nat × List Complaint) :=
  match s.toList with
  | q :: c :: rest =>
    if q = '\x27' || q = '"' then
      some (c.toNat, if rest.isEmpty then [] else [.ignored (String.ofList rest)])
    else none
  | _ => none

/-- Reads an integer argument as `strtoimax` reads it (`signed`) or `strtoumax` (which takes a
negative number modulo 2^64): a character constant gives its code; otherwise the number at
its front, held to the range. The value and the complaints it gives. -/
def numberOf (signed : Bool) (s : String) : Int × List Complaint :=
  match constantOf s with
  | some (c, warn) => (c, warn)
  | none =>
    match s.toList with
    | [] => (0, [])
    | cs =>
      match integerPrefix cs with
      | none => (0, [.notNumber s])
      | some (v, complete) =>
        let rest := if complete then [] else [Complaint.partly s]
        if signed then
          if v > intMax then (intMax, [.outOfRange s])
          else if v < intMin then (intMin, [.outOfRange s])
          else (v, rest)
        else if v.natAbs > uintMax then (uintMax, [.outOfRange s])
        else if v < 0 then (v + (uintMax + 1 : Nat), rest)
        else (v, rest)

/-- Reads a floating argument into a significand of `bits` bits, with its complaints. -/
def floatOf (bits : Nat) (s : String) : Binary × List Complaint :=
  match constantOf s with
  | some (c, warn) => (Binary.ofDecimal bits false c 0, warn)
  | none =>
    match s.toList with
    | [] => (.finite false 0 0, [])
    | cs =>
      match Binary.read bits cs with
      | some (v, range, rest) =>
        if range then (v, [.outOfRange s])
        else if !rest.isEmpty then (v, [.partly s])
        else (v, [])
      | none => (.finite false 0 0, [.notNumber s])

/-- The digits of a natural number in a base, lower case. -/
def digitsOf (base : Nat) (n : Nat) : String :=
  String.ofList (Nat.toDigits base n)

/-- Pads a text to a width, on the left or (with `-`) on the right, by spaces or zeros. -/
def pad (flags : List Char) (width : Option Nat) (zeroOk : Bool) (sign : String) (body : String) : String :=
  let w := width.getD 0
  let len := sign.length + body.length
  if len ≥ w then sign ++ body
  else if flags.contains '-' then sign ++ body ++ "".pushn ' ' (w - len)
  else if flags.contains '0' && zeroOk then sign ++ "".pushn '0' (w - len) ++ body
  else "".pushn ' ' (w - len) ++ sign ++ body

/-- Formats an integer by a conversion. -/
def integer (spec : Spec) (v : Int) : String :=
  let unsigned := spec.conv = 'o' || spec.conv = 'u' || spec.conv = 'x' || spec.conv = 'X'
  let mag : Nat := if unsigned && v < 0 then (v + 18446744073709551616).toNat else v.natAbs
  let base := match spec.conv with
    | 'o' => 8
    | 'x' => 16
    | 'X' => 16
    | _ => 10
  let digits := digitsOf base mag
  let digits := if spec.conv = 'X' then digits.toUpper else digits
  let digits := match spec.precision with
    | some p => if p = 0 && mag = 0 then "" else "".pushn '0' (p - digits.length) ++ digits
    | none => digits
  let digits :=
    if spec.flags.contains '#' then
      if spec.conv = 'o' && !digits.startsWith "0" then "0" ++ digits
      else if spec.conv = 'x' && mag ≠ 0 then "0x" ++ digits
      else if spec.conv = 'X' && mag ≠ 0 then "0X" ++ digits
      else digits
    else digits
  let sign := if unsigned then ""
    else if v < 0 then "-"
    else if spec.flags.contains '+' then "+"
    else if spec.flags.contains ' ' then " "
    else ""
  pad spec.flags spec.width spec.precision.isNone sign digits

/-- Formats a floating number, held in `bits` bits, by a conversion `f`, `e`, `g` or `a` (or
a capital). -/
def floating (bits : Nat) (spec : Spec) (v : Binary) : String :=
  let body := Binary.digitsFor bits spec.conv spec.precision (spec.flags.contains '#') v
  let sign := if v.isNegative then "-"
    else if spec.flags.contains '+' then "+"
    else if spec.flags.contains ' ' then " "
    else ""
  pad spec.flags spec.width v.isFinite sign body

/-- What filling a format writes, in order: bytes for standard output, and complaints for the
error stream, each written when it arises. -/
inductive Written
  | bytes (b : ByteArray)
  | complaint (c : Complaint)

/-- The outcome of filling a format once. -/
structure Filled where
  out : List Written
  rest : List String
  /-- `\c` or an unknown conversion ended all output. -/
  stopped : Bool
  /-- The format used at least one argument. -/
  consumed : Bool

/-- Takes the next argument, or the empty text when none is left. -/
def nextArg (args : List String) : String × List String × Bool :=
  match args with
  | a :: r => (a, r, true)
  | [] => ("", [], false)

/-- Reads a width or precision: digits, or `*` which takes an argument. -/
def starOrNat (cs : List Char) (args : List String) :
    Option Nat × List Char × List String × Bool × List Complaint :=
  match cs with
  | '*' :: r =>
    let (a, args', used) := nextArg args
    let (v, bad) := numberOf true a
    (some v.toNat, r, args', used, bad)
  | _ =>
    let (n, r) := leadingNat cs
    (n, r, args, false, [])

/-- Pads bytes with spaces to a width, on the left or (with `-`) on the right. -/
def padBytes (flags : List Char) (width : Option Nat) (b : ByteArray) : ByteArray :=
  let w := width.getD 0
  if b.size ≥ w then b
  else
    let fill := ByteArray.mk (Array.replicate (w - b.size) 32)
    if flags.contains '-' then b ++ fill else fill ++ b

/-- Whether a conversion is known with the flags and precision before it: `'` takes no `a`,
`c`, `e`, `o`, `s` or `x`; `#` no `c`, `d`, `i`, `s` or `u`; `0` no `c` or `s`; a precision no
`c`. -/
def known (flags : List Char) (precision : Option Nat) (c : Char) : Bool :=
  "aAcdeEfFgGiosuxX".toList.contains c &&
    !(flags.contains '\x27' && "aAceEosxX".toList.contains c) &&
    !(flags.contains '#' && "cdisu".toList.contains c) &&
    !(flags.contains '0' && "cs".toList.contains c) &&
    !(precision.isSome && c = 'c')

/-- Whether a character is a length modifier, which is read and left alone. -/
def isModifier (c : Char) : Bool :=
  c = 'l' || c = 'L' || c = 'h' || c = 'j' || c = 't' || c = 'z'

/-- Fills one conversion with its argument: the bytes and the complaints. -/
def convert (bits : Nat) (spec : Spec) (a : String) : ByteArray × List Complaint :=
  match spec.conv with
  | 's' =>
    let b := a.toUTF8
    let b := match spec.precision with
      | some p => b.extract 0 p
      | none => b
    (padBytes spec.flags spec.width b, [])
  | 'c' =>
    let b := a.toUTF8
    (padBytes spec.flags spec.width (ByteArray.mk #[if b.size > 0 then b.get! 0 else 0]), [])
  | 'd' | 'i' =>
    let (v, bad) := numberOf true a
    ((integer spec v).toUTF8, bad)
  | 'o' | 'u' | 'x' | 'X' =>
    let (v, bad) := numberOf false a
    ((integer spec v).toUTF8, bad)
  | _ =>
    let (v, bad) := floatOf bits a
    ((floating bits spec v).toUTF8, bad)

/-- Fills a format once from the arguments. -/
def fillOnce (bits : Nat) : Nat → List Char → List String → Filled
  | 0, _, args => ⟨[], args, false, false⟩
  | _ + 1, [], args => ⟨[], args, false, false⟩
  | fuel + 1, '\\' :: cs, args =>
    match escape formatEscapes cs with
    | (.stop, _) => ⟨[], args, true, false⟩
    | (.bytes b, r) =>
      let f := fillOnce bits fuel r args
      { f with out := .bytes b :: f.out }
  | fuel + 1, '%' :: '%' :: cs, args =>
    let f := fillOnce bits fuel cs args
    { f with out := .bytes "%".toUTF8 :: f.out }
  | fuel + 1, '%' :: 'b' :: cs, args =>
    let (a, args, used) := nextArg args
    let (b, stop) := withEscapes argumentEscapes (a.length + 1) a.toList
    if stop then ⟨[.bytes b], args, true, used⟩
    else
      let f := fillOnce bits fuel cs args
      { f with out := .bytes b :: f.out, consumed := used || f.consumed }
  | fuel + 1, '%' :: 'q' :: cs, args =>
    let (a, args, used) := nextArg args
    let f := fillOnce bits fuel cs args
    { f with out := .bytes (if used then (Tool.showFile a).toUTF8 else ByteArray.empty) :: f.out,
             consumed := used || f.consumed }
  | fuel + 1, '%' :: start, args =>
    let flags := start.takeWhile fun c => c = '-' || c = '+' || c = ' ' || c = '#' || c = '0' ||
      c = '\x27' || c = 'I'
    let cs := start.drop flags.length
    let (width, cs, args, u1, bad1) := starOrNat cs args
    let (precision, cs, args, u2, bad2) := match cs with
      | '.' :: r =>
        let (p, r, args, u, bad) := starOrNat r args
        (some (p.getD 0), r, args, u, bad)
      | _ => (none, cs, args, false, [])
    let cs := cs.dropWhile isModifier
    let early := (bad1 ++ bad2).map Written.complaint
    let directive := "%" ++ String.ofList (start.take (start.length - cs.length + 1))
    match cs with
    | conv :: cs =>
      if known flags precision conv then
        let (a, args, used) := nextArg args
        let (piece, bad) := convert bits ⟨flags, width, precision, conv⟩ a
        let f := fillOnce bits fuel cs args
        { f with out := early ++ bad.map Written.complaint ++ .bytes piece :: f.out,
                 consumed := used || u1 || u2 || f.consumed }
      else ⟨early ++ [.complaint (.invalid directive)], args, true, u1 || u2⟩
    | [] => ⟨early ++ [.complaint (.invalid directive)], args, true, u1 || u2⟩
  | fuel + 1, c :: cs, args =>
    let f := fillOnce bits fuel cs args
    { f with out := .bytes (String.singleton c).toUTF8 :: f.out }

/-- Fills a format, again while arguments remain and the format takes some; arguments it
never takes are warned about. `fuel` bounds the rounds. -/
def renderWith (bits : Nat) (format : List Char) : Nat → List String → List Written
  | 0, _ => []
  | fuel + 1, args =>
    let f := fillOnce bits (format.length + 1) format args
    if f.stopped || f.rest.isEmpty then f.out
    else if !f.consumed then f.out ++ [.complaint (.excess (f.rest.headD ""))]
    else f.out ++ renderWith bits format fuel f.rest

/-- Fills a format with arguments, holding floating arguments in `bits` bits. -/
def render (bits : Nat) (format : String) (args : List String) : List Written :=
  renderWith bits format.toList (args.length + 1) args

end Format

end JobControl.Host
