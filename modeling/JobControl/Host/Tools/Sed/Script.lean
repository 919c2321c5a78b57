import JobControl.Host.Regex.Match

/-!
# Utilities: sed scripts

A `sed` script is read into a flat list of `Instr`s, each with the lines it is for (a
`Selector`) and what it does (an `Action`). Blocks `{ ... }` become an `enter` that names the
index of its `leave`, and branches name the index of their label, so that running a script is
walking the list.

Commands are separated by newlines or `;`. A command may have no address, one, or two
separated by `,`, and then `!` to take the other lines. An address is a line number, `$` for the
last line, `/re/` or `\cREc` with the flag `I`, or `first~step`; a second address may also be
`+N` (the `N` lines after the first) or `~N` (up to a multiple of `N`). `0,/re/` lets the
expression end the range on the first line.

The errors are those GNU `sed` gives, with the place in the script where they were found.
-/

namespace JobControl.Host

namespace Sed

/-- A line address. -/
inductive Point
  /-- A line number. -/
  | line (n : Nat)
  /-- The last line. -/
  | last
  /-- The lines an expression matches (none: the last expression used), ignoring case or
  not, matching `^` and `$` at inner newlines or not. -/
  | pattern (r : Option Regex) (fold multiline : Bool)
  /-- The lines `first`, `first + step`, ... -/
  | step (first step : Nat)
  /-- As a second address: the `n` lines after the first. -/
  | plus (n : Nat)
  /-- As a second address: up to the next line that is a multiple of `n`. -/
  | tilde (n : Nat)

/-- The lines a command is for: none, one address, or a range; `negate` takes the others. -/
structure Selector where
  first : Option Point
  stop : Option Point
  negate : Bool

/-- A change of case in a replacement. -/
inductive Shift
  | upper
  | lower
  | upperOne
  | lowerOne
  | stop

/-- A piece of a replacement: bytes, the whole match, a group's match, or a change of case. -/
inductive Piece
  | bytes (bs : List UInt8)
  | whole
  | group (n : Nat)
  | shift (s : Shift)

/-- A substitution `s/re/replacement/flags`. -/
structure Subst where
  pattern : Option Regex
  fold : Bool
  multiline : Bool
  replacement : List Piece
  global : Bool
  nth : Nat
  print : Bool
  write : Option String

/-- Which lines a branch jumps on: always, after a substitution (`t`), or without one (`T`). -/
inductive Jump
  | always
  | ifReplaced
  | unlessReplaced

/-- What a command does. -/
inductive Action
  /-- The start of a block; the index of its end. -/
  | enter (close : Nat)
  /-- The end of a block. -/
  | leave
  /-- `=`: prints the line number. -/
  | lineNumber
  /-- `d`: deletes the pattern space and starts the next cycle. -/
  | delete
  /-- `D`: deletes the first line of the pattern space and starts again. -/
  | deleteFirst
  /-- `g`: copies the hold space to the pattern space. -/
  | fromHold
  /-- `G`: appends a newline and the hold space to the pattern space. -/
  | addFromHold
  /-- `h`: copies the pattern space to the hold space. -/
  | toHold
  /-- `H`: appends a newline and the pattern space to the hold space. -/
  | addToHold
  /-- `l`: prints the pattern space unambiguously, wrapped at a width. -/
  | list (width : Option Nat)
  /-- `n`: prints the pattern space and reads the next line into it. -/
  | next
  /-- `N`: appends a newline and the next line to the pattern space. -/
  | addNext
  /-- `p`: prints the pattern space. -/
  | print
  /-- `P`: prints the first line of the pattern space. -/
  | printFirst
  /-- `x`: exchanges the pattern and hold spaces. -/
  | exchange
  /-- `z`: empties the pattern space. -/
  | zap
  /-- `F`: prints the input's name. -/
  | fileName
  /-- `q` (printing the pattern space) or `Q` (not): stops with a status. -/
  | quit (code : Nat) (print : Bool)
  /-- `a`: text to print at the end of the cycle. -/
  | append (text : List UInt8)
  /-- `i`: text to print now. -/
  | insert (text : List UInt8)
  /-- `c`: deletes the pattern space, printing text at the end of the range. -/
  | change (text : List UInt8)
  /-- `r`: a file to print at the end of the cycle. -/
  | readFile (path : String)
  /-- `R`: the next line of a file, to print at the end of the cycle. -/
  | readLine (path : String)
  /-- `e`: runs a command and prints its output now, or (none) runs the pattern space and
  puts its output there. -/
  | execute (command : Option String)
  /-- `w`: writes the pattern space to a file. -/
  | writeFile (path : String)
  /-- `W`: writes the first line of the pattern space to a file. -/
  | writeFirst (path : String)
  /-- `b`, `t`, `T`: jumps to a command, or (none) to the end of the script. -/
  | branch (kind : Jump) (target : Option Nat)
  /-- `:`: a place to jump to. -/
  | label
  /-- `s`: substitutes. -/
  | subst (s : Subst)
  /-- `y`: translates bytes. -/
  | translate (table : List (UInt8 × UInt8))

/-- A command with the lines it is for. -/
structure Instr where
  select : Selector
  action : Action

/-- A script: its commands, and whether `#n` on its first line asked for quiet. -/
structure Script where
  instrs : Array Instr
  quiet : Bool

/-- An error in a script: where it was found (none: not at a place), and why. -/
structure ScriptError where
  place : Option Nat
  message : String

/-- Where the reader is in a script: the bytes left, and how many were read. -/
structure Cursor where
  rest : List UInt8
  pos : Nat

/-- Reading a script. -/
abbrev Reader := StateT Cursor (Except ScriptError)

/-- Fails at the place read so far. -/
def fail {α : Type} (msg : String) : Reader α := do
  throw ⟨some (← get).pos, msg⟩

/-- The next byte, without reading it. -/
def peek : Reader (Option UInt8) :=
  return (← get).rest.head?

/-- Reads the next byte. -/
def next : Reader (Option UInt8) := do
  let c ← get
  match c.rest with
  | [] => pure none
  | b :: r =>
    set (⟨r, c.pos + 1⟩ : Cursor)
    pure (some b)

/-- Whether a byte is a blank: a space or a tab. -/
def isBlank (b : UInt8) : Bool :=
  b = 32 || b = 9

/-- Whether a byte is white space. -/
def isSpace (b : UInt8) : Bool :=
  b = 32 || (9 ≤ b && b ≤ 13)

/-- Whether a byte is a decimal digit. -/
def isDigit (b : UInt8) : Bool :=
  48 ≤ b && b ≤ 57

/-- Skips bytes while a test holds. -/
def skipWhile (p : UInt8 → Bool) : Reader Unit := do
  let c ← get
  let skipped := c.rest.takeWhile p
  set (⟨c.rest.drop skipped.length, c.pos + skipped.length⟩ : Cursor)

/-- Reads the next byte that is not blank. -/
def nextNonblank : Reader (Option UInt8) := do
  skipWhile isBlank
  next

/-- Reads the digits at the front as a number. -/
def integer : Reader Nat := do
  let c ← get
  let ds := c.rest.takeWhile isDigit
  set (⟨c.rest.drop ds.length, c.pos + ds.length⟩ : Cursor)
  pure (ds.foldl (fun n d => n * 10 + (d.toNat - 48)) 0)

/-- Reads up to an unescaped delimiter, which is read too. In an expression `\n` is a newline;
an escaped delimiter stands for itself (in a replacement `\&` stays escaped when `&` is the
delimiter); an escaped newline is a newline. None when a newline or the end comes first. -/
def delimited (delim : UInt8) (regex : Bool) : Nat → List UInt8 → Reader (Option (List UInt8))
  | 0, _ => pure none
  | fuel + 1, acc => do
    match ← peek with
    | none => pure none
    | some 10 => pure none
    | some b =>
      let _ ← next
      if b = delim then pure (some acc.reverse)
      else if b = 92 then
        match ← next with
        | none => pure none
        | some c =>
          if c = 110 && regex then delimited delim regex fuel (10 :: acc)
          else if c = 10 then delimited delim regex fuel (10 :: acc)
          else if c = delim && !(!regex && c = 38) then delimited delim regex fuel (c :: acc)
          else delimited delim regex fuel (c :: 92 :: acc)
      else delimited delim regex fuel (b :: acc)

/-- Reads up to an unescaped delimiter. -/
def readDelimited (delim : UInt8) (regex : Bool) : Reader (Option (List UInt8)) := do
  delimited delim regex ((← get).rest.length + 1) []

/-- Reads the end of a command: blanks, then the end, a newline, `;`, or (left unread) `}` or
`#`. -/
def endOfCommand : Reader Unit := do
  skipWhile isBlank
  match ← peek with
  | none => pure ()
  | some 125 | some 35 => pure ()
  | some 10 | some 59 => let _ ← next
  | some _ =>
    let _ ← next
    fail "extra characters after command"

/-- Reads the rest of the line, after blanks: a file name. -/
def fileName : Reader String := do
  skipWhile isBlank
  let c ← get
  let name := c.rest.takeWhile (· ≠ 10)
  set (⟨(c.rest.drop name.length).drop 1, c.pos + name.length + (if c.rest.length > name.length then 1 else 0)⟩ : Cursor)
  if name.isEmpty then fail "missing filename in r/R/w/W commands"
  pure (Text.decodeLossy (ByteArray.mk name.toArray))

/-- Reads a label after blanks, up to white space or `;`. -/
def labelName : Reader String := do
  skipWhile isBlank
  let c ← get
  let name := c.rest.takeWhile fun b => !isSpace b && b ≠ 59
  set (⟨(c.rest.drop name.length).drop 1, c.pos + name.length + (if c.rest.length > name.length then 1 else 0)⟩ : Cursor)
  pure (Text.decodeLossy (ByteArray.mk name.toArray))

/-- The byte a letter escape stands for, if it is one. -/
def escapeByte (c : UInt8) : Option UInt8 :=
  match c with
  | 97 => some 7
  | 102 => some 12
  | 110 => some 10
  | 114 => some 13
  | 116 => some 9
  | 118 => some 11
  | _ => none

/-- The value of a digit in a base, if it is one. -/
def digitIn (base : Nat) (b : UInt8) : Option Nat :=
  let v := if 48 ≤ b && b ≤ 57 then some (b.toNat - 48)
    else if 97 ≤ b && b ≤ 102 then some (b.toNat - 87)
    else if 65 ≤ b && b ≤ 70 then some (b.toNat - 55)
    else none
  v.bind fun d => if d < base then some d else none

/-- Reads the digits of a numeric escape: decimal and octal take up to three, hexadecimal up
to two; the value is cut to a byte. -/
def numberEscape (base : Nat) (bs : List UInt8) : Option (UInt8 × List UInt8) :=
  let most := if base = 16 then 2 else 3
  let rec go : Nat → Nat → Nat → List UInt8 → Nat × Nat × List UInt8
    | 0, v, k, rest => (v, k, rest)
    | n + 1, v, k, b :: rest =>
      match digitIn base b with
      | some d => go n (v * base + d) (k + 1) rest
      | none => (v, k, b :: rest)
    | _ + 1, v, k, [] => (v, k, [])
  let (v, k, rest) := go most 0 0 bs
  if k = 0 then none else some (UInt8.ofNat (v % 256), rest)

/-- The byte an escape produces, for the escapes that produce one: the letters of C,
`\cX` (the control character of `X`), `\dNNN`, `\oNNN` and `\xHH`; with what follows. -/
def textEscape : List UInt8 → Option (UInt8 × List UInt8)
  | 99 :: x :: rest =>
    let upper := if 97 ≤ x && x ≤ 122 then x - 32 else x
    some (upper ^^^ 64, rest)
  | 100 :: rest => numberEscape 10 rest
  | 111 :: rest => numberEscape 8 rest
  | 120 :: rest => numberEscape 16 rest
  | c :: rest => (escapeByte c).map (·, rest)
  | [] => none

/-- The text of `a`, `i` and `c` with its escapes done; another escaped byte stands for
itself. -/
def unescapeText : Nat → List UInt8 → List UInt8
  | 0, bs => bs
  | _ + 1, [] => []
  | _ + 1, [92] => []
  | fuel + 1, 92 :: rest =>
    match textEscape rest with
    | some (b, more) => b :: unescapeText fuel more
    | none =>
      match rest with
      | c :: more => c :: unescapeText fuel more
      | [] => []
  | fuel + 1, b :: rest => b :: unescapeText fuel rest

/-- Reads the raw text of `a`, `i` or `c` up to an unescaped newline. -/
def rawText : Nat → List UInt8 → Reader (List UInt8)
  | 0, acc => pure acc.reverse
  | fuel + 1, acc => do
    match ← next with
    | none => pure acc.reverse
    | some 10 => pure acc.reverse
    | some 92 =>
      match ← next with
      | none => pure acc.reverse
      | some c => rawText fuel (c :: 92 :: acc)
    | some b => rawText fuel (b :: acc)

/-- Reads the text of `a`, `i` or `c`, one-line (`a text`) or after `a\`. -/
def commandText : Reader (List UInt8) := do
  match ← nextNonblank with
  | none => fail "expected \\ after `a', `c' or `i'"
  | some 92 =>
    match ← peek with
    | none => pure []
    | some 10 =>
      let _ ← next
      let raw ← rawText ((← get).rest.length + 1) []
      pure (unescapeText (raw.length + 1) raw ++ [10])
    | some _ =>
      let raw ← rawText ((← get).rest.length + 1) []
      pure (unescapeText (raw.length + 1) raw ++ [10])
  | some b =>
    let raw ← rawText ((← get).rest.length + 1) [b]
    pure (unescapeText (raw.length + 1) raw ++ [10])

/-- Reads a replacement into pieces. -/
def pieces : Nat → List UInt8 → List Piece
  | 0, _ => []
  | _ + 1, [] => []
  | _ + 1, [92] => [.bytes [92]]
  | fuel + 1, 92 :: c :: rest =>
    if isDigit c then (if c = 48 then .whole else .group (c.toNat - 48)) :: pieces fuel rest
    else
      match c with
      | 76 => .shift .lower :: pieces fuel rest
      | 85 => .shift .upper :: pieces fuel rest
      | 69 => .shift .stop :: pieces fuel rest
      | 108 => .shift .lowerOne :: pieces fuel rest
      | 117 => .shift .upperOne :: pieces fuel rest
      | _ =>
        match textEscape (c :: rest) with
        | some (b, more) => .bytes [b] :: pieces fuel more
        | none => .bytes [c] :: pieces fuel rest
  | fuel + 1, 38 :: rest => .whole :: pieces fuel rest
  | fuel + 1, b :: rest => .bytes [b] :: pieces fuel rest

/-- The largest group a replacement names. -/
def maxGroup (ps : List Piece) : Nat :=
  ps.foldl (fun m p => match p with
    | .group n => max m n
    | _ => m) 0

/-- Reads an expression, with the message of a bad one. -/
def expression (bytes : List UInt8) (extended : Bool) : Reader (Option Regex × Nat) :=
  if bytes.isEmpty then pure (none, 0)
  else match Regex.read extended bytes with
    | .ok (r, groups) => pure (some r, groups)
    | .error e => fail e

/-- Reads the flags after an address expression: `I` ignores case, `M` matches `^` and `$` at
inner newlines. -/
def addressFlags : Nat → Bool × Bool → Reader (Bool × Bool)
  | 0, flags => pure flags
  | fuel + 1, (fold, multi) => do
    skipWhile isBlank
    match ← peek with
    | some 73 => let _ ← next; addressFlags fuel (true, multi)
    | some 77 => let _ ← next; addressFlags fuel (fold, true)
    | _ => pure (fold, multi)

/-- Reads an address, if one starts here. -/
def address (extended : Bool) : Reader (Option Point) := do
  match ← peek with
  | some 47 | some 92 =>
    let first ← next
    let delim ← if first = some 92 then next else pure (some 47)
    match delim with
    | none => fail "unterminated address regex"
    | some d =>
      match ← readDelimited d true with
      | none => fail "unterminated address regex"
      | some bytes =>
        let (r, _) ← expression bytes extended
        let (fold, multi) ← addressFlags ((← get).rest.length + 1) (false, false)
        pure (some (.pattern r fold multi))
  | some b =>
    if isDigit b then
      let n ← integer
      skipWhile isBlank
      if (← peek) = some 126 then
        let _ ← next
        skipWhile isBlank
        let s ← integer
        pure (some (if s > 0 then .step n s else .line n))
      else pure (some (.line n))
    else if b = 43 || b = 126 then
      let _ ← next
      skipWhile isBlank
      let n ← integer
      pure (some (if b = 43 then .plus n else .tilde n))
    else if b = 36 then
      let _ ← next
      pure (some .last)
    else pure none
  | none => pure none

/-- What one command of a script is. -/
inductive Step
  | act (a : Action)
  | mark (name : String)
  | jump (kind : Jump) (name : String)
  | enter
  | leave
  | comment

/-- Reads the flags of a substitution. -/
def substFlags : Nat → Subst → Reader Subst
  | 0, s => pure s
  | fuel + 1, s => do
    match ← peek with
    | none => pure s
    | some 125 | some 35 => pure s
    | some 10 | some 59 => let _ ← next; pure s
    | some b =>
      if isDigit b then
        if s.nth ≠ 0 then fail "multiple number options to `s' command"
        else
          let n ← integer
          if n = 0 then fail "number option to `s' command may not be zero"
          else substFlags fuel { s with nth := n }
      else
        let _ ← next
        if b = 105 || b = 73 then substFlags fuel { s with fold := true }
        else if b = 109 || b = 77 then substFlags fuel { s with multiline := true }
        else if b = 101 then substFlags fuel s
        else if b = 112 then
          if s.print then fail "multiple `p' options to `s' command"
          else substFlags fuel { s with print := true }
        else if b = 103 then
          if s.global then fail "multiple `g' options to `s' command"
          else substFlags fuel { s with global := true }
        else if b = 119 then
          let f ← fileName
          pure { s with write := some f }
        else fail "unknown option to `s'"

/-- Reads the unescaped bytes of a `y` string: `\\` is a backslash, the other escapes as in
text. -/
def translateBytes : Nat → List UInt8 → List UInt8
  | 0, bs => bs
  | _ + 1, [] => []
  | fuel + 1, 92 :: 92 :: rest => 92 :: translateBytes fuel rest
  | fuel + 1, 92 :: rest =>
    match textEscape rest with
    | some (b, more) => b :: translateBytes fuel more
    | none => 92 :: translateBytes fuel rest
  | fuel + 1, b :: rest => b :: translateBytes fuel rest

/-- Reads the command after its addresses; `ranged` says whether it has two. -/
def command (extended : Bool) (ranged addressed : Bool) (c : UInt8) : Reader Step := do
  let one : Reader Unit := if ranged then fail "command only uses one address" else pure ()
  match c with
  | 123 => pure .enter
  | 125 =>
    if addressed then fail "unexpected `\x7d'"
    endOfCommand
    pure .leave
  | 35 =>
    if addressed then fail "comments don't accept any addresses"
    skipWhile (· ≠ 10)
    pure .comment
  | 58 =>
    if addressed then fail ": doesn't want any addresses"
    let name ← labelName
    if name.isEmpty then fail "\":\" lacks a label"
    pure (.mark name)
  | 98 | 116 | 84 =>
    let name ← labelName
    pure (.jump (if c = 98 then .always else if c = 116 then .ifReplaced else .unlessReplaced) name)
  | 61 => endOfCommand; pure (.act .lineNumber)
  | 100 => endOfCommand; pure (.act .delete)
  | 68 => endOfCommand; pure (.act .deleteFirst)
  | 103 => endOfCommand; pure (.act .fromHold)
  | 71 => endOfCommand; pure (.act .addFromHold)
  | 104 => endOfCommand; pure (.act .toHold)
  | 72 => endOfCommand; pure (.act .addToHold)
  | 110 => endOfCommand; pure (.act .next)
  | 78 => endOfCommand; pure (.act .addNext)
  | 112 => endOfCommand; pure (.act .print)
  | 80 => endOfCommand; pure (.act .printFirst)
  | 120 => endOfCommand; pure (.act .exchange)
  | 122 => endOfCommand; pure (.act .zap)
  | 70 => endOfCommand; pure (.act .fileName)
  | 108 | 76 =>
    skipWhile isBlank
    let width ← if (← peek).any isDigit then some <$> integer else pure none
    endOfCommand
    pure (.act (.list width))
  | 113 | 81 =>
    one
    skipWhile isBlank
    let code ← if (← peek).any isDigit then integer else pure 0
    endOfCommand
    pure (.act (.quit code (c = 113)))
  | 97 => pure (.act (.append (← commandText)))
  | 105 => pure (.act (.insert (← commandText)))
  | 99 => pure (.act (.change (← commandText)))
  | 114 => pure (.act (.readFile (← fileName)))
  | 82 => pure (.act (.readLine (← fileName)))
  | 119 => pure (.act (.writeFile (← fileName)))
  | 87 => pure (.act (.writeFirst (← fileName)))
  | 115 =>
    match ← next with
    | none => fail "unterminated `s' command"
    | some delim =>
      match ← readDelimited delim true with
      | none => fail "unterminated `s' command"
      | some pat =>
        match ← readDelimited delim false with
        | none => fail "unterminated `s' command"
        | some rep =>
          let replacement := pieces (rep.length + 1) rep
          let s ← substFlags ((← get).rest.length + 1) ⟨none, false, false, replacement, false, 0, false, none⟩
          let (r, groups) ← expression pat extended
          if r.isSome && maxGroup replacement > groups then
            fail ("invalid reference \\" ++ toString (maxGroup replacement) ++ " on `s' command's RHS")
          pure (.act (.subst { s with pattern := r, nth := if s.nth = 0 then 1 else s.nth }))
  | 121 =>
    match ← next with
    | none => fail "unterminated `y' command"
    | some delim =>
      match ← readDelimited delim false with
      | none => fail "unterminated `y' command"
      | some src =>
        match ← readDelimited delim false with
        | none => fail "unterminated `y' command"
        | some dst =>
          let src := translateBytes (src.length + 1) src
          let dst := translateBytes (dst.length + 1) dst
          if src.length ≠ dst.length then fail "strings for `y' command are different lengths"
          endOfCommand
          pure (.act (.translate (src.zip dst)))
  | 101 =>
    skipWhile isBlank
    let c ← get
    let command := c.rest.takeWhile (· ≠ 10)
    set (⟨(c.rest.drop command.length).drop 1, c.pos + command.length + (if c.rest.length > command.length then 1 else 0)⟩ : Cursor)
    pure (.act (.execute (if command.isEmpty then none else some (Text.decodeLossy (ByteArray.mk command.toArray)))))
  | 118 =>
    skipWhile (fun b => b ≠ 10 && b ≠ 59)
    pure .comment
  | _ => fail ("unknown command: `" ++ Text.decodeLossy (ByteArray.mk #[c]) ++ "'")

/-- What the reader has made of a script so far. -/
structure Building where
  instrs : Array Instr
  blocks : List Nat
  labels : List (String × Nat)
  jumps : List (Nat × String)

/-- Reads the commands of a script one after another. -/
def commands (extended : Bool) : Nat → Building → Reader Building
  | 0, b => pure b
  | fuel + 1, b => do
    skipWhile fun c => c = 59 || isSpace c
    match ← peek with
    | none => pure b
    | some _ =>
      let first ← address extended
      skipWhile isBlank
      let stop ← if first.isSome && (← peek) = some 44 then do
          let _ ← next
          skipWhile isBlank
          match ← address extended with
          | some p => pure (some p)
          | none => fail "unexpected `,'"
        else pure none
      match first, stop with
      | some (.line 0), some (.pattern _ _ _) => pure ()
      | some (.line 0), _ => fail "invalid usage of line address 0"
      | _, _ => pure ()
      skipWhile isBlank
      let negate ← if (← peek) = some 33 then do
          let _ ← next
          skipWhile isBlank
          if (← peek) = some 33 then fail "multiple `!'s"
          pure true
        else pure false
      match ← next with
      | none => fail "missing command"
      | some c =>
        let sel : Selector := ⟨first, stop, negate⟩
        let idx := b.instrs.size
        let step ← command extended stop.isSome first.isSome c
        let b ← match step with
          | .act a => pure { b with instrs := b.instrs.push ⟨sel, a⟩ }
          | .mark name =>
            pure { b with instrs := b.instrs.push ⟨sel, .label⟩, labels := (name, idx) :: b.labels }
          | .jump kind name =>
            pure { b with instrs := b.instrs.push ⟨sel, .branch kind none⟩, jumps := (idx, name) :: b.jumps }
          | .enter => pure { b with instrs := b.instrs.push ⟨sel, .enter 0⟩, blocks := idx :: b.blocks }
          | .leave =>
            match b.blocks with
            | [] => fail "unexpected `\x7d'"
            | opened :: rest =>
              let instrs := b.instrs.modify opened fun i => { i with action := .enter idx }
              pure { b with instrs := instrs.push ⟨sel, .leave⟩, blocks := rest }
          | .comment => pure b
        commands extended fuel b

/-- Reads a script. -/
def Script.read (extended : Bool) (text : List UInt8) : Except ScriptError Script :=
  let quiet := text.take 2 = [35, 110] && (text.length = 2 || text[2]? = some 10)
  match (commands extended (text.length + 1) ⟨#[], [], [], []⟩).run ⟨text, 0⟩ with
  | .error e => .error e
  | .ok (b, _) =>
    if !b.blocks.isEmpty then .error ⟨some 0, "unmatched `\x7b'"⟩
    else
      let resolved := b.jumps.foldl (fun (acc : Except ScriptError (Array Instr)) (idx, name) =>
        acc.bind fun instrs =>
          if name.isEmpty then .ok instrs
          else match b.labels.lookup name with
            | some target =>
              .ok (instrs.modify idx fun i => match i.action with
                | .branch kind _ => { i with action := .branch kind (some target) }
                | _ => i)
            | none => .error ⟨none, "can't find label for jump to `" ++ name ++ "'"⟩) (.ok b.instrs)
      resolved.map fun instrs => ⟨instrs, quiet⟩

end Sed

end JobControl.Host
