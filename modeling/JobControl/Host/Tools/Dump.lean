import JobControl.Host.Tools.Utility

/-!
# Utilities: dumping bytes

`od`: the bytes of its inputs (the operands one after another, or standard input), a line per
block of 16 bytes, each line an address and the block's fields in one or more types.

* A type (`-t`) is a kind and a size in bytes: `a` named characters, `c` characters with
  escapes, `d` signed, `u` unsigned, `o` octal and `x` hexadecimal numbers of 1, 2, 4 or 8
  bytes (letters `C`, `S`, `I`, `L` for them; 4 without a size), little-endian; a `z` after a
  type adds the printable bytes of the block between `>` and `<`. The letters `-a`, `-b`,
  `-c`, `-d`, `-i`, `-l`, `-o`, `-s`, `-x` stand for common types; `o2` without any.
* Each field is right-aligned; the fields of every type of a block take one width, the
  largest a type needs with one blank before each field, spread over its fields.
* The address (`-A`) is octal (seven digits), decimal (seven), hexadecimal (six) or none.
* A block equal to the one before is shown as one `*` line, unless `-v`.
* A last block shorter than a line is filled with zero bytes to a whole field of every type,
  and only its fields are shown; the address of the end follows on a line of its own.
* `-j` skips bytes of the input and `-N` reads at most that many; `-w` sets the bytes of a
  line (32 without a number).
-/

namespace JobControl.Host

open Sys

namespace Tool

namespace Dump

/-- How a field shows its bytes. -/
inductive Kind
  | named
  | char
  | signed
  | unsigned
  | octal
  | hex
  deriving DecidableEq, Repr

/-- One type of field: a kind, a size in bytes, and whether the printable bytes follow. -/
structure FieldType where
  kind : Kind
  size : Nat
  trailer : Bool
  deriving DecidableEq, Repr

/-- The widest text of a field of a type. -/
def FieldType.width (t : FieldType) : Nat :=
  match t.kind, t.size with
  | .named, _ | .char, _ => 3
  | .signed, 1 => 4
  | .signed, 2 => 6
  | .signed, 4 => 11
  | .signed, _ => 20
  | .unsigned, 1 => 3
  | .unsigned, 2 => 5
  | .unsigned, 4 => 10
  | .unsigned, _ => 20
  | .octal, 1 => 3
  | .octal, 2 => 6
  | .octal, 4 => 11
  | .octal, _ => 22
  | .hex, s => 2 * s

/-- The names `-t a` gives the bytes up to the space. -/
def charNames : List String :=
  ["nul", "soh", "stx", "etx", "eot", "enq", "ack", "bel", "bs", "ht", "nl", "vt", "ff", "cr",
    "so", "si", "dle", "dc1", "dc2", "dc3", "dc4", "nak", "syn", "etb", "can", "em", "sub", "esc",
    "fs", "gs", "rs", "us", "sp"]

/-- Whether a byte is a printable character of ASCII. -/
def printable (b : Nat) : Bool :=
  32 ≤ b && b < 127

/-- Digits of a number in a base, with zeros in front up to a count. -/
def digits (base count n : Nat) : String :=
  let ds := Nat.toDigits base n
  String.ofList (List.replicate (count - ds.length) '0' ++ ds)

/-- The text of one field: the value of `size` bytes read little-endian. -/
def FieldType.text (t : FieldType) (bytes : List Nat) : String :=
  let value := bytes.foldr (fun b acc => acc * 256 + b) 0
  match t.kind with
  | .named =>
    let c := value % 128
    if c = 127 then "del" else if c ≤ 32 then charNames.getD c "" else String.singleton (Char.ofNat c)
  | .char =>
    match value with
    | 0 => "\\0"
    | 7 => "\\a"
    | 8 => "\\b"
    | 12 => "\\f"
    | 10 => "\\n"
    | 13 => "\\r"
    | 9 => "\\t"
    | 11 => "\\v"
    | c => if printable c then String.singleton (Char.ofNat c) else digits 8 3 c
  | .signed =>
    let half := Nat.pow 2 (8 * t.size - 1)
    if value ≥ half then "-" ++ toString (2 * half - value) else toString value
  | .unsigned => toString value
  | .octal => digits 8 t.width value
  | .hex => digits 16 t.width value

/-- Reads a type string of `-t` (`orig`, named in complaints): kinds with their sizes, one
after another. -/
def readTypes (orig : String) : Nat → List Char → Except String (List FieldType)
  | 0, _ => .ok []
  | _ + 1, [] => .ok []
  | fuel + 1, c :: cs =>
    let withTrailer (t : FieldType) (rest : List Char) : Except String (List FieldType) :=
      match rest with
      | 'z' :: more => (readTypes orig fuel more).map (⟨t.kind, t.size, true⟩ :: ·)
      | _ => (readTypes orig fuel rest).map (t :: ·)
    let kind? : Option Kind := match c with
      | 'd' => some .signed
      | 'u' => some .unsigned
      | 'o' => some .octal
      | 'x' => some .hex
      | _ => none
    match c, kind? with
    | 'a', _ => withTrailer ⟨.named, 1, false⟩ cs
    | 'c', _ => withTrailer ⟨.char, 1, false⟩ cs
    | _, some kind =>
      let (size, rest) : Option Nat × List Char := match cs with
        | 'C' :: r => (some 1, r)
        | 'S' :: r => (some 2, r)
        | 'I' :: r => (some 4, r)
        | 'L' :: r => (some 8, r)
        | r =>
          let ds := r.takeWhile Char.isDigit
          if ds.isEmpty then (some 4, r)
          else ((String.ofList ds).toNat?, r.drop ds.length)
      match size with
      | some s =>
        if s = 1 || s = 2 || s = 4 || s = 8 then withTrailer ⟨kind, s, false⟩ rest
        else .error ("invalid type string " ++ quote orig ++
          ";\nthis system doesn't provide a " ++ toString s ++ "-byte integral type")
      | none => .error ("invalid type string " ++ quote orig)
    | _, none => .error ("invalid character '" ++ String.singleton c ++ "' in type string " ++ quote orig)

/-- How addresses are shown: a base and a number of digits, or not at all. -/
inductive Radix
  | octal
  | decimal
  | hex
  | none
  deriving DecidableEq

/-- The digits of an address. -/
def Radix.pad : Radix → Nat
  | .octal | .decimal => 7
  | .hex => 6
  | .none => 0

/-- An address as the radix shows it. -/
def Radix.show (r : Radix) (n : Nat) : String :=
  match r with
  | .octal => digits 8 7 n
  | .decimal => digits 10 7 n
  | .hex => digits 16 6 n
  | .none => ""

/-- What `od` shows: the types, the address radix, the bytes of a line, and whether equal
blocks are all shown. -/
structure Layout where
  types : List FieldType
  radix : Radix
  width : Nat
  verbose : Bool

/-- The width of a line of fields: the largest any type needs, a blank before each field. -/
def Layout.lineWidth (l : Layout) : Nat :=
  l.types.foldl (fun w t => max w ((t.width + 1) * (l.width / t.size))) 0

/-- The smallest number of bytes that is a whole number of fields of every type. -/
def Layout.unit (l : Layout) : Nat :=
  l.types.foldl (fun u t => Nat.lcm u t.size) 1

/-- The fields of one type for a block: `shown` fields of the line's `count`, the spare
width `pad` spread over all of them as `od` spreads it. -/
def fieldsText (t : FieldType) (count shown pad : Nat) (block : List Nat) : String :=
  let step (acc : String × Nat) (k : Nat) : String × Nat :=
    let (out, remaining) := acc
    let i := count - k
    let next := pad * (i - 1) / count
    let w := remaining - next + t.width
    let s := t.text ((block.drop (k * t.size)).take t.size)
    (out ++ "".pushn ' ' (w - s.length) ++ s, next)
  ((List.range shown).foldl step ("", pad)).1

/-- The lines of one block at an address: a line per type, the address on the first. -/
def Layout.block (l : Layout) (address : Nat) (bytes : List Nat) : String :=
  let unit := l.unit
  let filled := unit * ((bytes.length + unit - 1) / unit)
  let block := bytes ++ List.replicate (filled - bytes.length) 0
  let lineWidth := l.lineWidth
  String.join (l.types.zipIdx.map fun (t, i) =>
    let count := l.width / t.size
    let blank := (l.width - filled) / t.size
    let front := if i = 0 then l.radix.show address else "".pushn ' ' l.radix.pad
    let fields := fieldsText t count (count - blank) (lineWidth - t.width * count) block
    let trailer := if t.trailer then
        "".pushn ' ' (blank * (t.width + 1)) ++ "  >" ++
          String.ofList (bytes.map fun b => if printable b then Char.ofNat b else '.') ++ "<"
      else ""
    front ++ fields ++ trailer ++ "\n")

/-- The whole dump of bytes that start at an address: the blocks, a `*` line for a run of
blocks equal to the one before, and the address of the end. -/
def Layout.dump (l : Layout) (start : Nat) (data : List Nat) : String :=
  let width := max l.width 1
  let count := (data.length + width - 1) / width
  let blocks := (List.range count).map fun k => (start + k * width, (data.drop (k * width)).take width)
  let step (acc : String × Option (List Nat) × Bool) (b : Nat × List Nat) :
      String × Option (List Nat) × Bool :=
    let (out, prev, starred) := acc
    let (address, bytes) := b
    if !l.verbose && bytes.length = width && prev = some bytes then
      (if starred then out else out ++ "*\n", some bytes, true)
    else (out ++ l.block address bytes, some bytes, false)
  let (out, _, _) := blocks.foldl step ("", none, false)
  if l.radix = .none then out else out ++ l.radix.show (start + data.length) ++ "\n"

/-- The type a traditional letter option stands for. -/
def letterType : Char → Option FieldType
  | 'a' => some ⟨.named, 1, false⟩
  | 'b' => some ⟨.octal, 1, false⟩
  | 'c' => some ⟨.char, 1, false⟩
  | 'd' => some ⟨.unsigned, 2, false⟩
  | 'D' => some ⟨.unsigned, 4, false⟩
  | 'h' | 'x' => some ⟨.hex, 2, false⟩
  | 'H' | 'X' => some ⟨.hex, 4, false⟩
  | 'i' => some ⟨.signed, 4, false⟩
  | 'I' | 'l' | 'L' => some ⟨.signed, 8, false⟩
  | 'o' | 'B' => some ⟨.octal, 2, false⟩
  | 'O' => some ⟨.octal, 4, false⟩
  | 's' => some ⟨.signed, 2, false⟩
  | _ => none

end Dump

/-- The options of `od`. -/
def dumpSpec : OptSpec :=
  { flags := ['a', 'b', 'c', 'd', 'D', 'h', 'H', 'i', 'I', 'l', 'L', 'o', 'B', 'O', 's', 'x', 'X', 'v'], withArg := ['A', 'j', 'N', 't', 'S'], longs := [("address-radix", 'A'), ("skip-bytes", 'j'), ("read-bytes", 'N'), ("format", 't'), ("output-duplicates", 'v'), ("strings", 'S'), ("width", 'w'), ("traditional", '\x01'), ("endian", '\x02'), ("help", helpLetter), ("version", versionLetter)], optional := ['w'] }

/-- The arguments of `od` with a short `-w`, whose number may only be attached, written as
the long option. -/
def widthAsLong (args : List String) : List String :=
  args.map fun a => if a = "-w" then "--width" else if a.startsWith "-w" then "--width=" ++ (a.drop 2).toString else a

/-- The units a count of `od` may take. -/
def dumpUnits : List Char := "bEGKkMmPTYZ0".toList

/-- `od`: the bytes of the inputs in the types asked for. -/
def od (argv : List String) : Prog Nat := do
  let called := argv.headD "od"
  let hint := tryHelp called
  match options dumpSpec (widthAsLong (argv.drop 1)) with
  | .error e =>
    complain called (e.message called)
    pure 1
  | .ok p =>
    let mut asked : List Dump.FieldType := []
    for (c, v) in p.opts do
      if c = 't' then
        match Dump.readTypes v (v.length + 1) v.toList with
        | .ok ts => asked := asked ++ ts
        | .error m =>
          complain called m
          return 1
      else
        match Dump.letterType c with
        | some t => asked := asked ++ [t]
        | none => pure ()
    let types := if asked.isEmpty then [⟨.octal, 2, false⟩] else asked
    let radix ← match (p.arg? 'A').map (·.toList.headD '\x00') with
      | none => pure (some Dump.Radix.octal)
      | some 'o' => pure (some .octal)
      | some 'd' => pure (some .decimal)
      | some 'x' => pure (some .hex)
      | some 'n' => pure (some .none)
      | some r =>
        complain called ("invalid output address radix '" ++ String.singleton r ++ "'; it must be one character from [doxn]")
        pure none
    let count (c : Char) : Prog (Option (Option Nat)) := do
      match p.arg? c with
      | none => pure (some none)
      | some s =>
        match scaledCount s dumpUnits with
        | .ok n => pure (some (some n))
        | .error _ =>
          complain called ("invalid " ++ (if c = 'j' then "skip" else "read") ++ " argument " ++ quote s ++ hint)
          pure none
    let skip ← count 'j'
    let limit ← count 'N'
    let width ← match p.arg? 'w' with
      | none => pure (some 16)
      | some "" => pure (some 32)
      | some w =>
        match w.toNat? with
        | some n => if n = 0 then (do complain called ("invalid -w argument " ++ quote w); pure none) else pure (some n)
        | none =>
          complain called ("invalid -w argument " ++ quote w)
          pure none
    match radix, skip, limit, width with
    | some radix, some skip, some limit, some width =>
      let (read, ok) ← inputs called p.operands
      -- with no input that could be opened there is nothing to show, not even an address
      if read.isEmpty then return 1
      let data := read.foldl (fun acc (_, d) => acc ++ d.toList.map (·.toNat)) []
      let skip := skip.getD 0
      if skip > data.length then
        complain called "cannot skip past end of combined input"
        return 1
      let data := data.drop skip
      let data := match limit with
        | some n => data.take n
        | none => data
      let layout : Dump.Layout := ⟨types, radix, width, p.has 'v'⟩
      let unit := layout.unit
      let layout := if width % unit = 0 then layout else { layout with width := unit }
      Prog.putStr 1 (layout.dump skip data)
      pure (if ok then 0 else 1)
    | _, _, _, _ => pure 1

end Tool

end JobControl.Host
