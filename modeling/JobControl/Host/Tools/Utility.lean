import JobControl.Host.Program
import JobControl.Host.Quoting
import JobControl.Text.Utf8

/-!
# Utilities: what they share

The utilities of the host read their options as the GNU tools do: options may be grouped
(`-nr`), an option's argument may be attached (`-n3`) or follow (`-n 3`), `--` ends the options,
and options may follow operands. An operand `-` is standard input.

* `Tool.options` reads options by a `Tool.OptSpec`;
* `Tool.complain` prints `name: message`; `Tool.fileError` prints the complaint about a file;
* `Tool.lines` cuts bytes into lines; `Tool.unlines` joins them again;
* `Tool.readInput` reads an operand, `Tool.inputs` reads all of them in order.
-/

namespace JobControl.Host

open Sys

namespace Tool

/-- Prints `name: message` on the error stream. -/
def complain (name msg : String) : Prog Unit :=
  Prog.putStr 2 (name ++ ": " ++ msg ++ "\n")

/-- The deepest directory the recursive utilities go into. -/
def treeDepth : Nat := 256

/-- A path and a name in the directory it names. -/
def childPath (path name : String) : String :=
  (if path.endsWith "/" then (path.dropEnd 1).toString else path) ++ "/" ++ name

/-- Why a count could not be read. -/
inductive CountError
  | invalid
  | overflow
  deriving DecidableEq

/-- The largest count the utilities hold. -/
def countMax : Nat := 18446744073709551615

/-- The factor of a unit letter, where `base` is 1024 or 1000: `b` is 512, `B` 1024 (whatever
the base), `c` 1, `w` 2, and `k`, `M`, `G`, `T`, `P`, `E`, `Z`, `Y`, `R`, `Q` the powers of the
base in turn (`k`, `m`, `g` and `t` also in the other case). -/
def unitFactor (c : Char) (base : Nat) : Option Nat :=
  match c with
  | 'b' => some 512
  | 'B' => some 1024
  | 'c' => some 1
  | 'w' => some 2
  | 'k' => some base
  | 'K' => some base
  | 'm' => some (Nat.pow base 2)
  | 'M' => some (Nat.pow base 2)
  | 'g' => some (Nat.pow base 3)
  | 'G' => some (Nat.pow base 3)
  | 't' => some (Nat.pow base 4)
  | 'T' => some (Nat.pow base 4)
  | 'P' => some (Nat.pow base 5)
  | 'E' => some (Nat.pow base 6)
  | 'Z' => some (Nat.pow base 7)
  | 'Y' => some (Nat.pow base 8)
  | 'R' => some (Nat.pow base 9)
  | 'Q' => some (Nat.pow base 10)
  | _ => none

/-- A count as the utilities read one: decimal digits after optional white space and `+`,
then optionally one of the unit letters `units`; when `units` holds `0` the letter may be
followed by `iB` (powers of 1024) or by `B` or `D` (powers of 1000). A unit letter alone
counts one unit. No minus sign, nothing else, and at most `countMax`. -/
def scaledCount (s : String) (units : List Char) : Except CountError Nat :=
  let isWhite (c : Char) : Bool := c = ' ' || c = '\t' || c = '\n' || c = '\x0b' || c = '\x0c' || c = '\r'
  let cs := s.toList.dropWhile isWhite
  let signless := match cs with
    | '+' :: r => r
    | r => r
  let digits := signless.takeWhile Char.isDigit
  let start : Option (Nat × List Char) :=
    if cs.head? = some '-' then none
    else if digits.isEmpty then
      match s.toList with
      | c :: _ => if units.contains c then some (1, s.toList) else none
      | [] => none
    else some (digits.foldl (fun n d => n * 10 + (d.toNat - '0'.toNat)) 0, signless.dropWhile Char.isDigit)
  let within (v : Nat) : Except CountError Nat := if v > countMax then .error .overflow else .ok v
  match start with
  | none => .error .invalid
  | some (v, []) => within v
  | some (v, c :: more) =>
    if !units.contains c then .error .invalid
    else
      let (base, more) : Nat × List Char :=
        if units.contains '0' then
          match more with
          | 'i' :: 'B' :: r => (1024, r)
          | 'B' :: r => (1000, r)
          | 'D' :: r => (1000, r)
          | r => (1024, r)
        else (1024, more)
      match unitFactor c base with
      | some f => if more.isEmpty then within (v * f) else .error .invalid
      | none => .error .invalid

/-- The choice a typed argument of a long option stands for: the choice of that name, else the
only one it starts. -/
def argMatch? (typed : String) (choices : List String) : Option String :=
  if choices.contains typed then some typed
  else
    match choices.filter (·.startsWith typed) with
    | [c] => some c
    | _ => none

/-- The complaint about an argument of a long option that names no choice, with the choices
and the hint line. -/
def argComplaint (name option typed : String) (choices : List String) : String :=
  let kind := if (choices.filter (·.startsWith typed)).length > 1 then "ambiguous" else "invalid"
  kind ++ " argument " ++ quote typed ++ " for " ++ quote ("--" ++ option) ++
    "\nValid arguments are:" ++ String.join (choices.map fun c => "\n  - " ++ quote c) ++
    "\nTry '" ++ name ++ " --help' for more information."

/-- The line after a complaint about the command line, naming the program as it was called. -/
def tryHelp (called : String) : String :=
  "\nTry '" ++ called ++ " --help' for more information."

/-- The complaint about a file operand. -/
def fileError (name file : String) (e : Errno) : Prog Unit :=
  complain name (file ++ ": " ++ e.description)

/-- Which options a utility takes: letters alone, letters that take an argument, and long
names, each standing for a letter (one that is no short option when the long name has no
short form). A long name takes an argument when its letter does. -/
structure OptSpec where
  flags : List Char
  withArg : List Char
  longs : List (String × Char) := []
  /-- Options end at the first operand, as when the option string starts with `+`. -/
  inOrder : Bool := false
  /-- An argument that starts with `-` and a digit or a point is a number: options end there. -/
  numbers : Bool := false
  /-- Letters whose long names may take an argument after `=` (their short forms take none). -/
  optional : List Char := []

/-- Options as read: each letter with its argument, in order, and the operands. -/
structure Parsed where
  opts : List (Char × String)
  operands : List String

/-- Why options could not be read. -/
inductive OptError
  | invalid (c : Char)
  | missing (c : Char)
  /-- A long option no name starts with, as typed after `--`. -/
  | unrecognized (typed : String)
  /-- A long option that starts several names, as typed after `--`, with those names. -/
  | ambiguous (typed : String) (names : List String)
  /-- A long option without an argument was given one. -/
  | noArgument (name : String)
  /-- A long option that takes an argument came last. -/
  | needsArgument (name : String)

/-- The diagnostic of an option error, without the hint line. -/
def OptError.text : OptError → String
  | .invalid c => "invalid option -- '" ++ String.singleton c ++ "'"
  | .missing c => "option requires an argument -- '" ++ String.singleton c ++ "'"
  | .unrecognized t => "unrecognized option '--" ++ t ++ "'"
  | .ambiguous t names => "option '--" ++ t ++ "' is ambiguous; possibilities:" ++
      String.join (names.map fun n => " '--" ++ n ++ "'")
  | .noArgument n => "option '--" ++ n ++ "' doesn't allow an argument"
  | .needsArgument n => "option '--" ++ n ++ "' requires an argument"

/-- The text of an option error, as the GNU tools print it, with the hint line. -/
def OptError.message (name : String) (e : OptError) : String :=
  e.text ++ "\nTry '" ++ name ++ " --help' for more information."

/-- Reads the letters of one option group; `rest` are the arguments after it. -/
def group (spec : OptSpec) : List Char → List String →
    Except OptError (List (Char × String) × List String)
  | [], rest => .ok ([], rest)
  | c :: cs, rest =>
    if spec.withArg.contains c then
      if cs.isEmpty then
        match rest with
        | a :: rest' => .ok ([(c, a)], rest')
        | [] => .error (.missing c)
      else .ok ([(c, String.ofList cs)], rest)
    else if spec.flags.contains c then
      (group spec cs rest).map fun (os, r) => ((c, "") :: os, r)
    else .error (.invalid c)

/-- The letter standing for `--help`, which the utilities here take as no option at all. -/
def helpLetter : Char := '\x0e'

/-- The letter standing for `--version`, taken as no option at all. -/
def versionLetter : Char := '\x0f'

/-- The long option a typed name stands for: the one of that name, else the first whose name
it starts, unless another such stands for a different letter. Then the names it could be are
the first and those others, in the order of the table. -/
def findLong (spec : OptSpec) (typed : String) (name : String) : Except OptError (String × Char) :=
  match spec.longs.find? (·.1 = name) with
  | some l => .ok l
  | none =>
    let starting := spec.longs.filter (·.1.startsWith name)
    match starting with
    | [] => .error (.unrecognized typed)
    | l :: more =>
      let others := more.filter (·.2 ≠ l.2)
      if others.isEmpty then .ok l else .error (.ambiguous typed ((l :: others).map (·.1)))

/-- Reads one long option (the text after `--`); `rest` are the arguments after it. -/
def longOption (spec : OptSpec) (typed : String) (rest : List String) :
    Except OptError ((Char × String) × List String) :=
  let (name, value) := match typed.splitOn "=" with
    | [n] => (n, none)
    | n :: vs => (n, some ("=".intercalate vs))
    | [] => (typed, none)
  match findLong spec typed name with
  | .error e => .error e
  | .ok (full, c) =>
    if spec.withArg.contains c then
      match value, rest with
      | some v, _ => .ok ((c, v), rest)
      | none, a :: rest' => .ok ((c, a), rest')
      | none, [] => .error (.needsArgument full)
    else if spec.optional.contains c then .ok ((c, value.getD ""), rest)
    else if value.isSome then .error (.noArgument full)
    else .ok ((c, ""), rest)

/-- Whether an argument ends the options of a spec that reads them in order. -/
def OptSpec.ends (spec : OptSpec) (a : String) : Bool :=
  spec.numbers && (match a.toList with
    | '-' :: c :: _ => c.isDigit || c = '.'
    | _ => false)

/-- Reads options and operands; `fuel` bounds the arguments. -/
def optionsWith (spec : OptSpec) : Nat → List String → Except OptError Parsed
  | 0, args => .ok ⟨[], args⟩
  | _ + 1, [] => .ok ⟨[], []⟩
  | fuel + 1, a :: rest =>
    if a = "--" then .ok ⟨[], rest⟩
    else if spec.ends a then .ok ⟨[], a :: rest⟩
    else if a.startsWith "--" then
      match longOption spec (a.drop 2).toString rest with
      | .error e => .error e
      | .ok (o, rest') => (optionsWith spec fuel rest').map fun p => ⟨o :: p.opts, p.operands⟩
    else if a.startsWith "-" && a.length > 1 then
      match group spec (a.drop 1).toString.toList rest with
      | .error e => .error e
      | .ok (os, rest') => (optionsWith spec fuel rest').map fun p => ⟨os ++ p.opts, p.operands⟩
    else if spec.inOrder then .ok ⟨[], a :: rest⟩
    else (optionsWith spec fuel rest).map fun p => ⟨p.opts, a :: p.operands⟩

/-- Reads options and operands. -/
def options (spec : OptSpec) (args : List String) : Except OptError Parsed :=
  optionsWith spec (args.length + 1) args

/-- Whether an option letter was given. -/
def Parsed.has (p : Parsed) (c : Char) : Bool :=
  p.opts.any (·.1 = c)

/-- The argument of the last use of an option letter. -/
def Parsed.arg? (p : Parsed) (c : Char) : Option String :=
  (p.opts.filter (·.1 = c)).getLast?.map (·.2)

/-- The arguments of every use of an option letter. -/
def Parsed.args (p : Parsed) (c : Char) : List String :=
  (p.opts.filter (·.1 = c)).map (·.2)

/-- Cuts bytes into lines at each `eol` byte: the lines without it, and whether the last line
had one. Empty input has no lines. -/
def linesBy (eol : UInt8) (d : ByteArray) : List ByteArray × Bool :=
  let (cur, acc) := d.foldl (fun (acc : ByteArray × List ByteArray) b =>
    if b = eol then (ByteArray.empty, acc.1 :: acc.2) else (acc.1.push b, acc.2)) (ByteArray.empty, [])
  if cur.size = 0 then (acc.reverse, true) else ((cur :: acc).reverse, false)

/-- Cuts bytes into lines at each newline, as `linesBy` does. -/
def lines (d : ByteArray) : List ByteArray × Bool :=
  linesBy 10 d

/-- Joins lines, each followed by a newline. -/
def unlines (ls : List ByteArray) : ByteArray :=
  ls.foldl (fun acc l => (acc ++ l).push 10) ByteArray.empty

/-- Reads an operand: `-` is standard input. -/
def readInput (file : String) : Prog (Except Errno ByteArray) :=
  if file = "-" then Prog.readAll 0 else Prog.readPath file

/-- Reads the operands in order, or standard input when there are none; a file that cannot
be read is a complaint, and the result says whether all could be read. -/
def inputs (name : String) (files : List String) : Prog (List (String × ByteArray) × Bool) := do
  let files := if files.isEmpty then ["-"] else files
  let mut out := []
  let mut ok := true
  for f in files do
    match ← readInput f with
    | .ok d => out := out ++ [(f, d)]
    | .error e =>
      fileError name f e
      ok := false
  pure (out, ok)

/-- The bytes of a text. -/
def bytes (s : String) : ByteArray :=
  s.toUTF8

/-- Bytes as text, with bad bytes replaced. -/
def text (d : ByteArray) : String :=
  Text.decodeLossy d

end Tool

end JobControl.Host
