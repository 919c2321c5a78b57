import JobControl.Host.Format

/-!
# Shell scripts: the `printf` and `echo` builtins

The shell's own `printf` and `echo`, which work on bytes (held one to a character) and differ
from the `printf` utility in their escapes and complaints:

* In a format, a backslash takes one to three octal digits (`\101`, `\0101` is `\010` then
  `1`), or one of `\\ \a \b \e \f \n \r \t \v`; any other backslash stands for itself.
* `%b` and `echo` read the same escapes, except that an octal escape may start with an extra
  `0` (`\0101` is `A`), and `\c` ends all output.
* A conversion takes flags `#-+ 0`, a width and a precision (either may be `*`), and one of
  `diouxXaAeEfFgGcsb`; there are no length modifiers. Any other letter is an invalid
  directive and a format that ends inside a conversion is missing its letter: both stop the
  builtin with a complaint (status 2).
* A numeric argument is read as `strtoimax` (or `strtod`) reads it: `'c` or `"c` gives the
  first byte of `c`; an argument that is no number, or more than a number, or out of range
  is complained about (status 1), and out of range it is the nearest number in range.
* The format is used again while arguments remain, if it took any.

`fill` returns what was written, the complaints in order and how it ended.
-/

namespace JobControl.Host.Script

namespace Printf

open Format

/-- Whether a character is an octal digit. -/
def isOctal (c : Char) : Bool :=
  '0' ≤ c && c ≤ '7'

/-- Reads up to `n` octal digits: the value and what follows. -/
def octalRun : Nat → Nat → List Char → Nat × List Char
  | 0, v, cs => (v, cs)
  | _ + 1, v, [] => (v, [])
  | n + 1, v, c :: cs =>
    if isOctal c then octalRun n (v * 8 + (c.toNat - '0'.toNat)) cs else (v, c :: cs)

/-- The byte an escape after a backslash stands for, and what follows it. An escape the
shell does not know stands for the backslash, and what follows is read as it is. -/
def escapeAfter (cs : List Char) : Char × List Char :=
  match cs with
  | c :: rest =>
    if isOctal c then
      let (v, r) := octalRun 3 0 cs
      (Char.ofNat (v % 256), r)
    else
      match c with
      | '\\' => ('\\', rest)
      | 'a' => ('\x07', rest)
      | 'b' => ('\x08', rest)
      | 'e' => ('\x1b', rest)
      | 'f' => ('\x0c', rest)
      | 'n' => ('\n', rest)
      | 'r' => ('\r', rest)
      | 't' => ('\t', rest)
      | 'v' => ('\x0b', rest)
      | _ => ('\\', cs)
  | [] => ('\\', [])

/-- The bytes of a text with the escapes of `%b` and `echo`, and whether `\c` ended the
output. An octal escape may start with an extra `0`. -/
def escapeText : Nat → List Char → List Char × Bool
  | 0, _ => ([], false)
  | _ + 1, [] => ([], false)
  | fuel + 1, '\\' :: cs =>
    match cs with
    | 'c' :: _ => ([], true)
    | '0' :: d :: rest =>
      let (b, r) := escapeAfter (if isOctal d then d :: rest else '0' :: d :: rest)
      let (more, stop) := escapeText fuel r
      (b :: more, stop)
    | _ =>
      let (b, r) := escapeAfter cs
      let (more, stop) := escapeText fuel r
      (b :: more, stop)
  | fuel + 1, c :: cs =>
    let (more, stop) := escapeText fuel cs
    (c :: more, stop)

/-- The largest and smallest numbers of `strtoimax`, and the largest of `strtoumax`. -/
def intMax : Int := 9223372036854775807
def intMin : Int := -9223372036854775808
def uintMax : Int := 18446744073709551615

/-- Whether a character is white space for `strtoimax`. -/
def isSpace (c : Char) : Bool :=
  c = ' ' || c = '\t' || c = '\n' || c = '\x0b' || c = '\x0c' || c = '\r'

/-- Reads a numeric argument for an integer conversion: its value (signed, or unsigned and
wrapped when `unsigned`) and the complaint about it. -/
def intArg (unsigned : Bool) (a : String) : Int × Option String :=
  match a.toList with
  | q :: rest =>
    if q = '\'' || q = '"' then ((rest.head?.map Char.toNat).getD 0, none)
    else number (q :: rest)
  | [] => (0, none)
where
  /-- Reads the number at the front of the text. -/
  number (cs : List Char) : Int × Option String :=
    let trimmed := cs.dropWhile isSpace
    match integerPrefix trimmed with
    | none => (0, some (a ++ ": expected numeric value"))
    | some (v, whole) =>
      let neg := trimmed.head? == some '-'
      let (v, range) :=
        if unsigned then
          let mag := v.natAbs
          if (mag : Int) > uintMax then (uintMax, true)
          else if neg then ((uintMax + 1 - mag) % (uintMax + 1), false)
          else (v, false)
        else if v > intMax then (intMax, true)
        else if v < intMin then (intMin, true)
        else (v, false)
      if !whole then (v, some (a ++ ": not completely converted"))
      else if range then (v, some (a ++ ": Numerical result out of range"))
      else (v, none)

/-- Reads a numeric argument for a floating conversion, held as a double. -/
def floatArg (a : String) : Binary × Option String :=
  match a.toList with
  | q :: rest =>
    if q = '\'' || q = '"' then
      (Binary.ofDecimal 53 false ((rest.head?.map Char.toNat).getD 0) 0, none)
    else
      match Binary.read 53 (q :: rest) with
      | some (v, range, left) =>
        if !left.isEmpty then (v, some (a ++ ": not completely converted"))
        else if range then (v, some (a ++ ": Numerical result out of range"))
        else (v, none)
      | none => (.finite false 0 0, some (a ++ ": expected numeric value"))
  | [] => (.finite false 0 0, none)

/-- How filling a format ended. -/
inductive Ending
  /-- The format was used up. -/
  | through
  /-- `\c` in a `%b` argument ended all output. -/
  | stopped
  /-- A complaint that stops the builtin. -/
  | failed (msg : String)

/-- What filling a format once gives. -/
structure Filled where
  out : List Char
  complaints : List String
  args : List String
  took : Bool
  ending : Ending

/-- Pads bytes to a width, on the right with `-`, by spaces. -/
def padBytes (flags : List Char) (width : Option Nat) (body : List Char) : List Char :=
  let w := width.getD 0
  if body.length ≥ w then body
  else if flags.contains '-' then body ++ List.replicate (w - body.length) ' '
  else List.replicate (w - body.length) ' ' ++ body

/-- The characters of a text, which are bytes here. -/
def bytesOf (s : String) : List Char :=
  s.toList

/-- Fills a format once, from `args`; `took` says whether an argument was taken yet. -/
def fillOnce : Nat → List Char → List String → Bool → Filled
  | 0, _, args, took => ⟨[], [], args, took, .through⟩
  | _ + 1, [], args, took => ⟨[], [], args, took, .through⟩
  | fuel + 1, '\\' :: cs, args, took =>
    let (b, r) := escapeAfter cs
    let f := fillOnce fuel r args took
    { f with out := b :: f.out }
  | fuel + 1, '%' :: '%' :: cs, args, took =>
    let f := fillOnce fuel cs args took
    { f with out := '%' :: f.out }
  | fuel + 1, '%' :: cs0, args, took =>
    let flags := cs0.takeWhile fun c => "#-+ 0".toList.contains c
    let cs := cs0.drop flags.length
    -- a width: `*` takes an argument
    let (star, cs, args, took, c1) : Option Int × List Char × List String × Bool × List String :=
      match cs with
      | '*' :: r =>
        let (a, rest, t) := match args with
          | a :: rest => (a, rest, true)
          | [] => ("", [], took)
        let (v, c) := intArg false a
        (some v, r, rest, t, c.toList)
      | _ => (none, cs, args, took, [])
    let widthDigits := cs.takeWhile fun c => c.isDigit || c = '*'
    let cs := cs.drop widthDigits.length
    let (precision, cs, args, took, c2) : Option (Option Int) × List Char × List String × Bool ×
        List String :=
      match cs with
      | '.' :: r =>
        match r with
        | '*' :: r2 =>
          let (a, rest, t) := match args with
            | a :: rest => (a, rest, true)
            | [] => ("", [], took)
          let (v, c) := intArg false a
          let r2 := r2.dropWhile fun c => c.isDigit || c = '*'
          (some (some v), r2, rest, t, c.toList)
        | _ =>
          let ds := r.takeWhile Char.isDigit
          let r2 := r.dropWhile fun c => c.isDigit || c = '*'
          (some (some (String.ofList ds).toNat!), r2, args, took, [])
      | _ => (none, cs, args, took, [])
    match cs with
    | [] => ⟨[], c1 ++ c2, args, took, .failed "missing format character"⟩
    | conv :: rest =>
      let width : Option Nat × Bool := match star with
        | some v => (some v.natAbs, v < 0)
        | none =>
          let ds := widthDigits.filter Char.isDigit
          (if ds.isEmpty then none else some (String.ofList ds).toNat!, false)
      let flags := if width.2 then flags ++ ['-'] else flags
      let precision : Option Nat := match precision with
        | some (some p) => if p < 0 then none else some p.toNat
        | _ => none
      let spec : Spec := ⟨flags, width.1, precision, conv⟩
      let takeArg : String × List String × Bool := match args with
        | a :: r => (a, r, true)
        | [] => ("", [], took)
      let continueWith (piece : List Char) (cs : List String) (args : List String)
          (took : Bool) : Filled :=
        let f := fillOnce fuel rest args took
        { f with out := piece ++ f.out, complaints := c1 ++ c2 ++ cs ++ f.complaints }
      if "diouxX".toList.contains conv then
        let (a, args, took) := takeArg
        let (v, c) := intArg (conv ≠ 'd' && conv ≠ 'i') a
        continueWith (bytesOf (integer spec v)) c.toList args took
      else if "aAeEfFgG".toList.contains conv then
        let (a, args, took) := takeArg
        let (v, c) := floatArg a
        continueWith (bytesOf (floating 53 spec v)) c.toList args took
      else if conv = 's' then
        let (a, args, took) := takeArg
        let body := match precision with
          | some p => a.toList.take p
          | none => a.toList
        continueWith (padBytes flags width.1 body) [] args took
      else if conv = 'c' then
        let (a, args, took) := takeArg
        continueWith (padBytes flags width.1 [a.toList.headD '\x00']) [] args took
      else if conv = 'b' then
        let (a, args, took) := takeArg
        let (body, stop) := escapeText (a.length + 1) a.toList
        let body := match precision with
          | some p => body.take p
          | none => body
        if stop then
          ⟨padBytes flags width.1 body, c1 ++ c2, args, took, .stopped⟩
        else continueWith (padBytes flags width.1 body) [] args took
      else
        ⟨[], c1 ++ c2, args, took,
          .failed (String.ofList ('%' :: cs0.take (cs0.length - rest.length)) ++
            ": invalid directive")⟩
  | fuel + 1, c :: cs, args, took =>
    let f := fillOnce fuel cs args took
    { f with out := c :: f.out }

/-- Fills a format with arguments, again while arguments remain and the format takes some:
the bytes written, the complaints in order, and the complaint that stopped it, if any.
`fuel` bounds the rounds. -/
def fill (format : List Char) : Nat → List String → List Char × List String × Option String
  | 0, _ => ([], [], none)
  | fuel + 1, args =>
    let f := fillOnce (format.length + 1) format args false
    match f.ending with
    | .failed m => (f.out, f.complaints, some m)
    | .stopped => (f.out, f.complaints, none)
    | .through =>
      if f.took && !f.args.isEmpty then
        let (more, cs, stop) := fill format fuel f.args
        (f.out ++ more, f.complaints ++ cs, stop)
      else (f.out, f.complaints, none)

/-- What `echo` writes: the arguments with their escapes, joined by spaces, with a newline
unless the first argument is `-n`; `\c` ends all output. -/
def echoText (args : List String) : List Char :=
  let (newline, args) := match args with
    | "-n" :: rest => (false, rest)
    | rest => (true, rest)
  go newline args
where
  /-- Writes the arguments in turn. -/
  go (newline : Bool) : List String → List Char
    | [] => if newline then ['\n'] else []
    | [a] =>
      let (b, stop) := escapeText (a.length + 1) a.toList
      if stop then b else b ++ (if newline then ['\n'] else [])
    | a :: rest =>
      let (b, stop) := escapeText (a.length + 1) a.toList
      if stop then b else b ++ ' ' :: go newline rest

end Printf

end JobControl.Host.Script
