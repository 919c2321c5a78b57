import JobControl.Host.Tools.Sed.Script
import JobControl.Host.Tools.Utility

/-!
# Utilities: running sed

`sed` reads its inputs as one stream of lines (each file on its own with `-s` or `-i`). For
each line it runs the script on the pattern space, then prints the pattern space unless `-n`,
then what `a` and `r` queued. The input is read a line ahead, so that `$` knows the last line,
and no further, so that `yes | sed 5q` stops.

* A line that had no newline at the end of the input is printed without one, unless more
  output follows;
* a range is live from a line its first address selects until its second address ends it; a
  second address that is a line number at or before the first line ends it at once;
* `s` replaces the first match (or the `N`-th, or all with `g`); an empty match right after the
  previous match is skipped, as GNU `sed` does;
* `n` and `N` on the last line end the script as `q` does; `D` starts again without reading
  when the pattern space holds a newline;
* whether a newline follows the pattern space when it is printed travels with its text: `g`,
  `G`, `h`, `H` and `x` carry it between the pattern and hold spaces (the hold space starts with
  one).

The status is the one `q` or `Q` gives, else 2 when an input could not be read, else 0; a bad
script is status 1.
-/

namespace JobControl.Host

open Sys

namespace Sed

/-- The first line end (`eol`) at or after a place in bytes. -/
def lineEndFrom (eol : UInt8) (d : ByteArray) : Nat → Nat → Option Nat
  | 0, _ => none
  | fuel + 1, i =>
    if h : i < d.size then
      if d[i] = eol then some i else lineEndFrom eol d fuel (i + 1)
    else none

/-- The input: the name the program was called by (for its complaints), the byte that ends
lines, the descriptor being read and its name, the bytes read and not yet used (from `start`),
whether the descriptor has ended, the files still to open, and whether one could not be read. -/
structure Input where
  called : String
  eol : UInt8
  fd : Option Nat
  name : String
  buffer : ByteArray
  start : Nat
  ended : Bool
  pending : List String
  failed : Bool

/-- An input that will read the files in order, with lines ending in `eol`. -/
def Input.ofFiles (called : String) (eol : UInt8) (files : List String) : Input :=
  ⟨called, eol, none, "-", ByteArray.empty, 0, false, files, false⟩

/-- The bound on the reads of the input. -/
def readFuel : Nat := 100000000

/-- Reads until a whole line is held, or the input has no more lines: then nothing is held. -/
def Input.ready (i : Input) : Nat → Prog Input
  | 0 => pure i
  | fuel + 1 => do
    if (lineEndFrom i.eol i.buffer (i.buffer.size + 1) i.start).isSome then pure i
    else match i.fd with
      | some fd =>
        if !i.ended then
          match ← Prog.ask (.read fd 65536) with
          | .ok chunk =>
            if chunk.size = 0 then Input.ready { i with ended := true } fuel
            else Input.ready { i with buffer := i.buffer.extract i.start i.buffer.size ++ chunk, start := 0 } fuel
          | .error _ => Input.ready { i with ended := true } fuel
        else if i.start < i.buffer.size then pure i
        else do
          if fd ≠ 0 then
            let _ ← Prog.ask (.close fd)
          Input.ready { i with fd := none } fuel
      | none =>
        if i.start < i.buffer.size then pure i
        else match i.pending with
          | [] => pure i
          | f :: rest => do
            let opened ← if f = "-" then pure (.ok 0) else Prog.ask (.openFile f .read)
            match opened with
            | .ok fd =>
              let fresh : Input := ⟨i.called, i.eol, some fd, f, ByteArray.empty, 0, false, rest, i.failed⟩
              Input.ready fresh fuel
            | .error e =>
              Tool.complain i.called ("can't read " ++ f ++ ": " ++ e.description)
              Input.ready { i with pending := rest, failed := true } fuel

/-- Takes the next line held: its bytes, and whether it ended with a newline. -/
def Input.take (i : Input) : Option (ByteArray × Bool × Input) :=
  if i.start ≥ i.buffer.size then none
  else match lineEndFrom i.eol i.buffer (i.buffer.size + 1) i.start with
    | some k => some (i.buffer.extract i.start k, true, { i with start := k + 1 })
    | none => some (i.buffer.extract i.start i.buffer.size, false, { i with start := i.buffer.size })

/-- Whether a range is live, and the line that ends it when a number does. -/
inductive Range
  | idle
  | live (stop : Option Nat)

/-- Output to come at the end of the cycle. -/
inductive Queued
  | text (bs : List UInt8)
  | file (path : String)

/-- How running the script on a line ended. -/
inductive Flow
  /-- At the end of the script. -/
  | finish
  /-- The pattern space was deleted. -/
  | discard
  /-- `D` left lines in the pattern space to run again. -/
  | again
  /-- `q`, `Q`, or no line for `n` or `N`: stop with a status, printing the pattern space or not. -/
  | stop (code : Nat) (print : Bool)

/-- The state of `sed`. -/
structure Run where
  space : ByteArray
  chomped : Bool
  hold : ByteArray
  holdChomped : Bool
  line : Nat
  last : Bool
  lastRegex : Option (Regex × Bool × Bool)
  ranges : Array Range
  replaced : Bool
  queue : List Queued
  out : ByteArray
  missing : Bool
  input : Input
  files : List (String × Nat)
  quiet : Bool
  inPlace : Bool
  /-- The byte that ends lines: a newline, or NUL with `-z`. -/
  eol : UInt8
  /-- The files `R` reads, each with its bytes and how far it was read. -/
  lineFiles : List (String × ByteArray × Nat)

/-- Prints bytes, and a newline after them if asked; a line printed without one gets it before
the next output. -/
def Run.emit (r : Run) (text : ByteArray) (newline : Bool) : Run :=
  let o := if r.missing then r.out.push r.eol else r.out
  { r with out := if newline then (o ++ text).push r.eol else o ++ text, missing := !newline }

/-- Prints bytes as they are. -/
def Run.emitRaw (r : Run) (text : ByteArray) : Run :=
  let o := if r.missing then r.out.push r.eol else r.out
  { r with out := o ++ text, missing := false }

/-- Writes what was printed, unless it is kept for a file edited in place. -/
def Run.flush (r : Run) : Prog Run := do
  if r.inPlace || r.out.size = 0 then pure r
  else
    Prog.put 1 r.out
    pure { r with out := ByteArray.empty }

/-- Prints what was queued for the end of the cycle. -/
def Run.dumpQueue (r : Run) : Prog Run := do
  let mut r := r
  for q in r.queue.reverse do
    match q with
    | .text bs => r := r.emitRaw (ByteArray.mk bs.toArray)
    | .file path =>
      match ← Prog.readPath path with
      | .ok d => if d.size > 0 then r := r.emitRaw d
      | .error _ => pure ()
  pure { r with queue := [] }

/-- Reads the next line into the pattern space, or appends it after a newline. -/
def Run.readLine (r : Run) (append : Bool) : Prog (Option Run) := do
  let i ← r.input.ready readFuel
  match i.take with
  | none => pure none
  | some (line, chomped, i) =>
    let i ← i.ready readFuel
    let space := if append then (r.space.push r.eol) ++ line else line
    let last := i.start ≥ i.buffer.size
    pure (some { r with input := i, space, chomped, line := r.line + 1, last, replaced := false })

/-- Whether an expression (none: the last one used) matches the pattern space. -/
def Run.test (r : Run) (re : Option Regex) (fold multi : Bool) : Bool × Run :=
  match re with
  | some x => (Regex.found x ⟨r.space, fold, multi⟩, { r with lastRegex := some (x, fold, multi) })
  | none =>
    match r.lastRegex with
    | some (x, f, m) => (Regex.found x ⟨r.space, f, m⟩, r)
    | none => (false, r)

/-- Whether an address selects the current line. -/
def Run.hits (r : Run) : Point → Bool × Run
  | .line n => (r.line = n, r)
  | .last => (r.last, r)
  | .pattern re fold multi => r.test re fold multi
  | .step first step => (r.line ≥ first && (r.line - first) % step = 0, r)
  | .plus _ => (false, r)
  | .tilde _ => (false, r)

/-- Whether a command selects the current line, moving its range along. -/
def Run.selects (r : Run) (idx : Nat) (sel : Selector) : Bool × Run :=
  let setRange (r : Run) (g : Range) : Run := { r with ranges := r.ranges.set! idx g }
  let (hit, r) : Bool × Run :=
    match sel.first, sel.stop with
    | none, _ => (true, r)
    | some a, none => r.hits a
    | some a, some b =>
      match r.ranges[idx]?.getD .idle with
      | .idle =>
        let (m, r) := r.hits a
        if !m then (false, r)
        else match b with
          | .line n => if n ≤ r.line then (true, r) else (true, setRange r (.live (some n)))
          | .plus n => if n = 0 then (true, r) else (true, setRange r (.live (some (r.line + n))))
          | .tilde n =>
            if n = 0 || r.line % n = 0 then (true, r)
            else (true, setRange r (.live (some (r.line + n - r.line % n))))
          | _ => (true, setRange r (.live none))
      | .live (some e) =>
        (r.line ≤ e, if e ≤ r.line then setRange r .idle else r)
      | .live none =>
        let (m, r) := r.hits b
        (true, if m then setRange r .idle else r)
  (hit != sel.negate, r)

/-- The state of case changes while a replacement is built. -/
structure Casing where
  lasting : Option Bool
  once : Option Bool

/-- Appends bytes under the case changes in force, character by character. -/
def Casing.add (c : Casing) (acc : ByteArray) (bs : ByteArray) : ByteArray × Casing :=
  if c.once.isNone && c.lasting.isNone then (acc ++ bs, c)
  else
    (unitsFrom bs 0).foldl (fun (st : ByteArray × Casing) u =>
      let (acc, c) := st
      let mode := c.once.orElse fun _ => c.lasting
      let u := match mode with
        | some true => Text.Unicode.toUpper u
        | some false => Text.Unicode.toLower u
        | none => u
      (acc ++ encodeUnit u, { c with once := none })) (acc, c)

/-- The replacement text for a match from `a` to `b` with its groups. -/
def expand (pieces : List Piece) (space : ByteArray) (a b : Nat) (caps : Regex.Captures) : ByteArray :=
  let (out, _) := pieces.foldl (fun (st : ByteArray × Casing) p =>
    let (acc, c) := st
    match p with
    | .bytes bs => c.add acc (ByteArray.mk bs.toArray)
    | .whole => c.add acc (space.extract a b)
    | .group n =>
      match caps.get? n with
      | some (x, y) => c.add acc (space.extract x y)
      | none => (acc, c)
    | .shift .upper => (acc, { lasting := some true, once := none })
    | .shift .lower => (acc, { lasting := some false, once := none })
    | .shift .stop => (acc, { lasting := none, once := none })
    | .shift .upperOne => (acc, { c with once := some true })
    | .shift .lowerOne => (acc, { c with once := some false })) (ByteArray.empty, ⟨none, none⟩)
  out

/-- Replaces matches in the pattern space from a place on: the new text, and whether a
replacement was made. `lastEnd` is where the previous match ended, `count` how many matched. -/
def substituteFrom (r : Regex) (subject : Regex.Subject) (s : Subst) :
    Nat → Nat → Option Nat → Nat → ByteArray → Bool → ByteArray × Bool
  | 0, pos, _, _, acc, made => (acc ++ subject.data.extract pos subject.data.size, made)
  | fuel + 1, pos, lastEnd, count, acc, made =>
    let space := subject.data
    if pos > space.size then (acc, made)
    else
      match Regex.search r subject pos with
      | none => (acc ++ space.extract pos space.size, made)
      | some (a, b, caps) =>
        let step := subject.stepAt a
        if a = b && lastEnd = some a then
          if a ≥ space.size then (acc ++ space.extract pos space.size, made)
          else substituteFrom r subject s fuel (a + step) lastEnd count (acc ++ space.extract pos (a + step)) made
        else
          let count := count + 1
          let acc := acc ++ space.extract pos a
          let chosen := count ≥ s.nth
          let acc := if chosen then acc ++ expand s.replacement space a b caps else acc ++ space.extract a b
          let made := made || chosen
          if chosen && !s.global then (acc ++ space.extract b space.size, made)
          else if a = b then
            if a ≥ space.size then (acc, made)
            else substituteFrom r subject s fuel (a + step) (some b) count (acc ++ space.extract a (a + step)) made
          else substituteFrom r subject s fuel b (some b) count acc made

/-- The octal digits of a byte, three of them. -/
def octal3 (b : UInt8) : List UInt8 :=
  let n := b.toNat
  [UInt8.ofNat (48 + n / 64), UInt8.ofNat (48 + n / 8 % 8), UInt8.ofNat (48 + n % 8)]

/-- The pattern space as `l` prints it: escapes for the unprintable bytes, lines wrapped with
`\` before the width, and `$` at the end. -/
def listing (space : ByteArray) (width : Nat) : ByteArray :=
  let pieceOf (b : UInt8) : List UInt8 :=
    if b = 92 then [92, 92]
    else match b with
      | 7 => [92, 97]
      | 8 => [92, 98]
      | 12 => [92, 102]
      | 10 => [92, 110]
      | 13 => [92, 114]
      | 9 => [92, 116]
      | 11 => [92, 118]
      | _ => if 32 ≤ b && b < 127 then [b] else 92 :: octal3 b
  let limit := if width > 1 then width - 1 else 0
  let (out, _) := space.foldl (fun (acc : ByteArray × Nat) b =>
    let p := pieceOf b
    let (o, w) := acc
    let (o, w) := if limit > 0 && w + p.length > limit then ((o.push 92).push 10, 0) else (o, w)
    (o ++ ByteArray.mk p.toArray, w + p.length)) (ByteArray.empty, 0)
  (out.push 36).push 10

/-- The first line of the pattern space, and whether a line end (`eol`) ended it. -/
def firstLine (eol : UInt8) (space : ByteArray) : ByteArray × Bool :=
  match lineEndFrom eol space (space.size + 1) 0 with
  | some k => (space.extract 0 k, true)
  | none => (space.extract 0 space.size, false)

/-- Writes a line to a file of `w`. -/
def Run.writeTo (r : Run) (path : String) (text : ByteArray) (newline : Bool) : Prog Run := do
  if path = "/dev/stdout" then pure (r.emit text newline)
  else
    let data := if newline then text.push 10 else text
    if path = "/dev/stderr" then
      Prog.put 2 data
      pure r
    else
      match r.files.lookup path with
      | some fd =>
        Prog.put fd data
        pure r
      | none => pure r

/-- The bound on the waits for a command of `e`. -/
def waitFuel : Nat := 1000

/-- Runs a command with the shell, its output going into a pipe: what it printed. -/
def runCommand (command : String) : Prog ByteArray := do
  match ← Prog.ask .pipe with
  | .error _ => pure ByteArray.empty
  | .ok (rfd, wfd) =>
    let env ← Prog.ask .environment
    let spawned ← Prog.ask (.spawn (.exec "/bin/sh" ["sh", "-c", command] env) [(0, 0), (1, wfd), (2, 2)])
    let _ ← Prog.ask (.close wfd)
    let out ← Prog.readAll rfd
    let _ ← Prog.ask (.close rfd)
    match spawned with
    | .ok pid => let _ ← Prog.awaitEnd pid waitFuel
    | .error _ => pure ()
    pure (match out with
      | .ok d => d
      | .error _ => ByteArray.empty)

/-- The next line of a file that `R` reads, with its line end if it had one; none at its
end (or when it cannot be read). -/
def Run.nextLineOf (r : Run) (path : String) : Prog (Option ByteArray × Run) := do
  let (data, pos) ← match r.lineFiles.lookup path with
    | some entry => pure entry
    | none => do
      match ← Prog.readPath path with
      | .ok d => pure (d, 0)
      | .error _ => pure (ByteArray.empty, 0)
  let stay (p : Nat) : List (String × ByteArray × Nat) :=
    (path, data, p) :: r.lineFiles.filter (·.1 ≠ path)
  if pos ≥ data.size then pure (none, { r with lineFiles := stay pos })
  else
    let stop := match lineEndFrom r.eol data (data.size + 1) pos with
      | some k => k + 1
      | none => data.size
    pure (some (data.extract pos stop), { r with lineFiles := stay stop })

/-- Runs the script on the pattern space from a command on; `fuel` bounds the steps. -/
def exec (prog : Array Instr) (width : Nat) : Nat → Nat → Run → Prog (Flow × Run)
  | 0, _, r => pure (.finish, r)
  | fuel + 1, pc, r => do
    match prog[pc]? with
    | none => pure (.finish, r)
    | some ins =>
      match ins.action with
      | .leave => exec prog width fuel (pc + 1) r
      | action =>
        let (sel, r) := r.selects pc ins.select
        if !sel then
          match action with
          | .enter close => exec prog width fuel (close + 1) r
          | _ => exec prog width fuel (pc + 1) r
        else
          let go (r : Run) := exec prog width fuel (pc + 1) r
          match action with
          | .enter _ | .leave | .label => go r
          | .lineNumber => go (r.emitRaw (toString r.line ++ "\n").toUTF8)
          | .delete => pure (.discard, r)
          | .deleteFirst =>
            match lineEndFrom r.eol r.space (r.space.size + 1) 0 with
            | some k => pure (.again, { r with space := r.space.extract (k + 1) r.space.size })
            | none => pure (.discard, r)
          | .fromHold => go { r with space := r.hold, chomped := r.holdChomped }
          | .addFromHold => go { r with space := (r.space.push r.eol) ++ r.hold, chomped := r.holdChomped }
          | .toHold => go { r with hold := r.space, holdChomped := r.chomped }
          | .addToHold => go { r with hold := (r.hold.push r.eol) ++ r.space, holdChomped := r.chomped }
          | .list w => go (r.emitRaw (listing r.space (w.getD width)))
          | .next =>
            if r.last then pure (.stop 0 true, r)
            else
              let r := if r.quiet then r else r.emit r.space r.chomped
              let r ← r.dumpQueue
              let r ← r.flush
              match ← r.readLine false with
              | some r => go r
              | none => pure (.stop 0 false, r)
          | .addNext =>
            if r.last then pure (.stop 0 true, r)
            else
              let r ← r.dumpQueue
              let r ← r.flush
              match ← r.readLine true with
              | some r => go r
              | none => pure (.stop 0 true, r)
          | .print => go (r.emit r.space r.chomped)
          | .printFirst =>
            let (l, nl) := firstLine r.eol r.space
            go (r.emit l (nl || r.chomped))
          | .exchange =>
            go { r with space := r.hold, hold := r.space, chomped := r.holdChomped, holdChomped := r.chomped }
          | .zap => go { r with space := ByteArray.empty }
          | .fileName => go (r.emitRaw (r.input.name ++ "\n").toUTF8)
          | .quit code print => pure (.stop code print, r)
          | .append text => go { r with queue := .text text :: r.queue }
          | .insert text => go (r.emitRaw (ByteArray.mk text.toArray))
          | .change text =>
            let inRange := match r.ranges[pc]? with
              | some (.live _) => true
              | _ => false
            let r := if inRange && !ins.select.negate then r else r.emitRaw (ByteArray.mk text.toArray)
            pure (.discard, r)
          | .readFile path => go { r with queue := .file path :: r.queue }
          | .readLine path =>
            let (line, r) ← r.nextLineOf path
            match line with
            | some l => go { r with queue := .text l.toList :: r.queue }
            | none => go r
          | .execute (some command) =>
            let r ← r.flush
            let out ← runCommand command
            go (r.emitRaw out)
          | .execute none =>
            let out ← runCommand (Text.decodeLossy r.space)
            let out := if out.size > 0 && out.get! (out.size - 1) = 10 then out.extract 0 (out.size - 1) else out
            go { r with space := out }
          | .writeFile path => go (← r.writeTo path r.space r.chomped)
          | .writeFirst path =>
            let (l, _) := firstLine r.eol r.space
            go (← r.writeTo path l true)
          | .branch kind target =>
            let (jump, r) := match kind with
              | .always => (true, r)
              | .ifReplaced => (r.replaced, { r with replaced := false })
              | .unlessReplaced => (!r.replaced, { r with replaced := false })
            if jump then
              match target with
              | some t => exec prog width fuel t r
              | none => pure (.finish, r)
            else go r
          | .translate table =>
            let space := ByteArray.mk (r.space.toList.map fun b => (table.lookup b).getD b).toArray
            go { r with space }
          | .subst s =>
            let chosen := match s.pattern with
              | some x => some (x, s.fold, s.multiline)
              | none => r.lastRegex
            match chosen with
            | none =>
              Tool.complain r.input.called "no previous regular expression"
              pure (.stop 1 false, r)
            | some (x, fold, multi) =>
              let r := if s.pattern.isSome then { r with lastRegex := some (x, fold, multi) } else r
              let (space, made) := substituteFrom x ⟨r.space, fold, multi⟩ s (r.space.size + 2) 0 none 0 ByteArray.empty false
              if !made then go r
              else
                let r := { r with space, replaced := true }
                let r := if s.print then r.emit r.space r.chomped else r
                match s.write with
                | some path => go (← r.writeTo path r.space r.chomped)
                | none => go r

/-- The bound on the commands run on one line. -/
def stepFuel : Nat := 10000000

/-- Ends a cycle: the queued output, then the output so far. -/
def Run.endCycle (r : Run) : Prog Run := do
  let r ← r.dumpQueue
  r.flush

/-- Runs cycles until the input ends or the script stops: the status `q` gave, if it did. -/
def cycles (script : Script) (width : Nat) : Nat → Bool → Run → Prog (Option Nat × Run)
  | 0, _, r => pure (none, r)
  | fuel + 1, again, r => do
    let next ← if again then pure (some r) else r.readLine false
    match next with
    | none => pure (none, r)
    | some r =>
      let (flow, r) ← exec script.instrs width stepFuel 0 r
      match flow with
      | .finish =>
        let r := if r.quiet then r else r.emit r.space r.chomped
        cycles script width fuel false (← r.endCycle)
      | .discard => cycles script width fuel false (← r.endCycle)
      | .again => cycles script width fuel true (← r.endCycle)
      | .stop code print =>
        let r := if print && !r.quiet then r.emit r.space r.chomped else r
        pure (some code, ← r.endCycle)

/-- A piece of a script: text given with `-e`, or a file given with `-f`. -/
inductive Source
  | text (s : String)
  | file (path : String)

/-- The options of `sed`. -/
structure Options where
  quiet : Bool
  extended : Bool
  separate : Bool
  inPlace : Bool
  /-- The suffix of the copy `-i` keeps of each file, if any. -/
  backup : Option String
  /-- `-z`: lines end with NUL bytes. -/
  nullData : Bool
  width : Nat
  scripts : List Source
  operands : List String

/-- Reads the arguments of `sed`; an error is the option letter at fault and whether its
argument was missing. -/
def readOptions : Nat → List String → Options → Except (Char × Bool) Options
  | 0, _, o => .ok o
  | _ + 1, [], o => .ok o
  | fuel + 1, a :: rest, o =>
    if a = "--" then .ok { o with operands := o.operands ++ rest }
    else if a = "-" || !a.startsWith "-" then readOptions fuel rest { o with operands := o.operands ++ [a] }
    else if a = "--quiet" || a = "--silent" then readOptions fuel rest { o with quiet := true }
    else if a = "--regexp-extended" then readOptions fuel rest { o with extended := true }
    else if a = "--separate" then readOptions fuel rest { o with separate := true }
    else if a.startsWith "--expression=" then
      readOptions fuel rest { o with scripts := o.scripts ++ [.text (a.drop 13).toString] }
    else if a.startsWith "--in-place" then
      let suffix := if a.startsWith "--in-place=" then some (a.drop 11).toString else none
      readOptions fuel rest { o with inPlace := true, separate := true, backup := suffix }
    else if a = "--null-data" || a = "--zero-terminated" then readOptions fuel rest { o with nullData := true }
    else if a.startsWith "--" then readOptions fuel rest o
    else
      let rec letters : Nat → List Char → List String → Options → Except (Char × Bool) (Options × List String)
        | 0, _, rest, o => .ok (o, rest)
        | _ + 1, [], rest, o => .ok (o, rest)
        | fuel + 1, c :: cs, rest, o =>
          match c with
          | 'n' => letters fuel cs rest { o with quiet := true }
          | 'E' | 'r' => letters fuel cs rest { o with extended := true }
          | 's' => letters fuel cs rest { o with separate := true }
          | 'u' => letters fuel cs rest o
          | 'z' => letters fuel cs rest { o with nullData := true }
          | 'i' =>
            let suffix := if cs.isEmpty then none else some (String.ofList cs)
            .ok ({ o with inPlace := true, separate := true, backup := suffix }, rest)
          | 'e' | 'f' | 'l' =>
            let (arg, rest) := if cs.isEmpty then (rest.head?, rest.drop 1) else (some (String.ofList cs), rest)
            match arg with
            | none => .error (c, true)
            | some v =>
              match c with
              | 'e' => .ok ({ o with scripts := o.scripts ++ [.text v] }, rest)
              | 'f' => .ok ({ o with scripts := o.scripts ++ [.file v] }, rest)
              | _ => .ok ({ o with width := v.toNat?.getD o.width }, rest)
          | _ => .error (c, false)
      match letters (a.length + 1) (a.drop 1).toString.toList rest o with
      | .error e => .error e
      | .ok (o, rest) => readOptions fuel rest o

/-- Where an error place falls among the pieces of a script joined by newlines: the piece's
number and the place within it. -/
def locate (lengths : List Nat) (place : Nat) : Nat × Nat :=
  let rec go : List Nat → Nat → Nat → Nat × Nat
    | [], k, p => (k, p)
    | [_], k, p => (k, p)
    | n :: rest, k, p => if p ≤ n then (k, p) else go rest (k + 1) (p - n - 1)
  go lengths 1 place

/-- The usage line of `sed`, naming it as it was called. -/
def usage (called : String) : String :=
  "Usage: " ++ called ++ " [OPTION]... \x7bscript-only-if-no-other-script\x7d [input-file]...\n"

/-- The name of the copy `-i` keeps of a file: the suffix after the name, or, when the suffix
holds `*`, the suffix with each `*` standing for the file's name (in the file's directory
unless the suffix names one). -/
def backupName (file suffix : String) : String :=
  if suffix.contains '*' then
    let parts := file.splitOn "/"
    let base := parts.getLastD file
    let dir := "/".intercalate parts.dropLast
    let named := base.intercalate (suffix.splitOn "*")
    if named.contains '/' || dir.isEmpty then named else dir ++ "/" ++ named
  else file ++ suffix

/-- The files a script writes with `w`. -/
def writtenFiles (prog : Array Instr) : List String :=
  (prog.toList.filterMap fun i => match i.action with
    | .writeFile p | .writeFirst p => some p
    | .subst s => s.write
    | _ => none).eraseDups.filter fun p => p ≠ "/dev/stdout" && p ≠ "/dev/stderr"

end Sed

namespace Tool

/-- `sed`: runs a script over the lines of its inputs. -/
def sed (argv : List String) : Prog Nat := do
  let called := argv.headD "sed"
  match Sed.readOptions (argv.length + 1) (argv.drop 1) ⟨false, false, false, false, none, false, 70, [], []⟩ with
  | .error (c, missing) =>
    complain called ((if missing then "option requires an argument -- '" else "invalid option -- '") ++
      String.singleton c ++ "'")
    Prog.putStr 2 (Sed.usage called)
    pure 1
  | .ok o =>
    -- the pieces of the script: `-e` texts and `-f` files, or the first operand
    let (pieces, operands) :=
      if o.scripts.isEmpty then ((o.operands.take 1).map Sed.Source.text, o.operands.drop 1)
      else (o.scripts, o.operands)
    if pieces.isEmpty then
      Prog.putStr 2 (Sed.usage called)
      return 1
    let mut texts : List String := []
    for piece in pieces do
      match piece with
      | .file file =>
        match ← readInput file with
        | .ok d =>
          let t := text d
          texts := texts ++ [if t.endsWith "\n" then (t.dropEnd 1).toString else t]
        | .error e =>
          complain called ("couldn't open file " ++ file ++ ": " ++ e.description)
          return 1
      | .text t => texts := texts ++ [t]
    let script := "\n".intercalate texts
    match Sed.Script.read o.extended (Regex.codes script) with
    | .error e =>
      match e.place with
      | some p =>
        let (k, c) := Sed.locate (texts.map fun t => (Regex.codes t).length) p
        complain called ("-e expression #" ++ toString k ++ ", char " ++ toString c ++ ": " ++ e.message)
      | none => complain called e.message
      -- a jump to no label is found only after the whole script is read, and is fatal
      pure (if e.place.isNone then 4 else 1)
    | .ok s =>
      let quiet := o.quiet || s.quiet
      -- the files of `w`, made empty before any line is read
      let mut opened : List (String × Nat) := []
      for path in Sed.writtenFiles s.instrs do
        match ← Prog.ask (.openFile path (.write false true)) with
        | .ok fd => opened := opened ++ [(path, fd)]
        | .error e =>
          complain called ("couldn't open file " ++ path ++ ": " ++ e.description)
          return 4
      let files := if operands.isEmpty then ["-"] else operands
      let ranges : Array Sed.Range := s.instrs.map fun i => match i.select.first with
        | some (.line 0) => .live none
        | _ => .idle
      let eol : UInt8 := if o.nullData then 0 else 10
      let start : Sed.Run := ⟨ByteArray.empty, true, ByteArray.empty, true, 0, false, none, ranges, false,
        [], ByteArray.empty, false, Sed.Input.ofFiles called eol files, opened, quiet, o.inPlace, eol, []⟩
      let mut run := start
      let mut code : Option Nat := none
      let mut failed := false
      if o.separate then
        for f in files do
          run := { run with input := Sed.Input.ofFiles called eol [f], line := 0, ranges, out := ByteArray.empty, missing := false }
          let (q, r) ← Sed.cycles s o.width Sed.readFuel false run
          run := r
          if r.input.failed then failed := true
          else if o.inPlace then
            if let some suffix := o.backup then
              match ← Prog.readPath f with
              | .ok original =>
                let copy := Sed.backupName f suffix
                match ← Prog.ask (.openFile copy (.write false true)) with
                | .ok fd =>
                  Prog.put fd original
                  let _ ← Prog.ask (.close fd)
                | .error e => complain called ("couldn't open file " ++ copy ++ ": " ++ e.description)
              | .error _ => pure ()
            match ← Prog.ask (.openFile f (.write false true)) with
            | .ok fd =>
              Prog.put fd r.out
              let _ ← Prog.ask (.close fd)
            | .error e => complain called ("couldn't edit " ++ f ++ ": " ++ e.description)
          if q.isSome then
            code := q
            break
      else
        let (q, r) ← Sed.cycles s o.width Sed.readFuel false run
        run := r
        code := q
        failed := r.input.failed
      let _ ← run.flush
      for (_, fd) in opened do
        let _ ← Prog.ask (.close fd)
      pure (code.getD (if failed then 2 else 0))

end Tool

end JobControl.Host
