import JobControl.Host.Tools.Utility
import JobControl.Text.Unicode

/-!
# Utilities: lines

`head`, `tail`, `wc`, `uniq`, `rev` and `tac`.

* `head` reads only as much input as it prints, so that a writer before it in a pipeline is
  stopped by the closed pipe; `-n -K` prints all but the last `K` lines;
* `tail -n K` prints the last `K` lines, `tail -n +K` the lines from the `K`-th on;
* `wc` counts lines, words (runs of printable characters between white space), characters
  of UTF-8, bytes and the widest line, and pads counts to the width of the total size of the regular files counted
  (at least 7 when one input is not a regular file; 1 for a single count of a single input);
* `uniq` merges adjacent equal lines, `-c` prefixing each with its count as `%7d `.
-/

namespace JobControl.Host

open Sys

namespace Tool

/-- The number of newlines in bytes. -/
def newlineCount (d : ByteArray) : Nat :=
  d.foldl (fun n b => if b = 10 then n + 1 else n) 0

/-- The position just after the `k`-th newline (`k ≥ 1`), if there are that many. -/
def afterNewlines (d : ByteArray) (k : Nat) : Option Nat :=
  let (_, found, _) := d.foldl (fun (acc : Nat × Option Nat × Nat) b =>
    let (seen, found, i) := acc
    match found with
    | some _ => (seen, found, i + 1)
    | none =>
      if b = 10 then
        if seen + 1 = k then (seen + 1, some (i + 1), i + 1) else (seen + 1, none, i + 1)
      else (seen, none, i + 1)) (0, none, 0)
  found

/-- Copies the first `k` lines of a descriptor to standard output, reading no further than
needed. -/
def headLines (fd : Nat) : Nat → Nat → Prog (Except Errno Unit)
  | 0, _ => pure (.ok ())
  | _ + 1, 0 => pure (.ok ())
  | fuel + 1, k + 1 => do
    match ← Prog.ask (.read fd 65536) with
    | .error e => pure (.error e)
    | .ok chunk =>
      if chunk.size = 0 then pure (.ok ())
      else
        match afterNewlines chunk (k + 1) with
        | some cut =>
          Prog.put 1 (chunk.extract 0 cut)
          pure (.ok ())
        | none =>
          Prog.put 1 chunk
          headLines fd fuel (k + 1 - newlineCount chunk)

/-- Copies the first `k` bytes of a descriptor to standard output. -/
def headBytes (fd : Nat) : Nat → Nat → Prog (Except Errno Unit)
  | 0, _ => pure (.ok ())
  | _ + 1, 0 => pure (.ok ())
  | fuel + 1, k => do
    match ← Prog.ask (.read fd (min k 65536)) with
    | .error e => pure (.error e)
    | .ok chunk =>
      if chunk.size = 0 then pure (.ok ())
      else
        Prog.put 1 chunk
        headBytes fd fuel (k - chunk.size)

/-- Joins lines with newlines; the last gets one only if `endsNl`. -/
def joinLines (ls : List ByteArray) (endsNl : Bool) : ByteArray :=
  match ls with
  | [] => ByteArray.empty
  | _ =>
    let body := ls.foldl (fun acc l => (acc ++ l).push 10) ByteArray.empty
    if endsNl then body else body.extract 0 (body.size - 1)

/-- The units a count of `head` or `tail` may have. -/
def countUnits : List Char :=
  "bkKmMGTPEZYRQ0".toList

/-- The complaint about a count of `head` or `tail` that cannot be read. -/
def countComplaint (bytes : Bool) (text : String) (e : CountError) : String :=
  "invalid number of " ++ (if bytes then "bytes" else "lines") ++ ": " ++ quote text ++
    (match e with
     | .invalid => ""
     | .overflow => ": Value too large for defined data type")

/-- Turns the old form `-K` (a count of lines) into `-n K`. -/
def oldCount (flag : String) : List String → List String
  | a :: rest =>
    if a.length > 1 && (a.startsWith "-" || a.startsWith "+") && (a.drop 1).toString.all Char.isDigit then
      (if a.startsWith "+" then [flag, a] else [flag, (a.drop 1).toString]) ++ rest
    else a :: rest
  | [] => []

/-- Opens an operand for reading: `-` is standard input. -/
def openInput (file : String) : Prog (Except Errno Nat) :=
  if file = "-" then pure (.ok 0) else Prog.ask (.openFile file .read)

/-- Closes a descriptor opened by `openInput`. -/
def closeInput (file : String) (fd : Nat) : Prog Unit := do
  if file ≠ "-" then
    let _ ← Prog.ask (.close fd)

/-- The header `head` and `tail` print before each of several inputs. -/
def header (first : Bool) (file : String) : String :=
  (if first then "" else "\n") ++ "==> " ++ (if file = "-" then "standard input" else file) ++ " <==\n"

/-- `head`: the first lines or bytes of each input. -/
def head (argv : List String) : Prog Nat := do
  let called := argv.headD "head"
  match options { flags := ['q', 'v', 'z'], withArg := ['n', 'c'], longs := [("bytes", 'c'), ("lines", 'n'), ("quiet", 'q'), ("silent", 'q'), ("verbose", 'v'), ("zero-terminated", 'z'), ("help", helpLetter), ("version", versionLetter)] } (oldCount "-n" (argv.drop 1)) with
  | .error e =>
    complain called (e.message called)
    pure 1
  | .ok p =>
    let lastCount := (p.opts.filter fun (c, _) => c = 'n' || c = 'c').getLast?
    let (bytes, text) := match lastCount with
      | some ('c', v) => (true, v)
      | some (_, v) => (false, v)
      | none => (false, "10")
    let allBut := text.startsWith "-"
    let digits := if allBut then (text.drop 1).toString else text
    match scaledCount digits countUnits with
    | .error e =>
      complain called (countComplaint bytes digits e)
      pure 1
    | .ok k =>
      let files := if p.operands.isEmpty then ["-"] else p.operands
      let headers := (files.length > 1 || p.has 'v') && !p.has 'q'
      let mut status := 0
      let mut first := true
      for f in files do
        match ← openInput f with
        | .error e =>
          complain called ("cannot open " ++ quoteFile f ++ " for reading: " ++ e.description)
          status := 1
        | .ok fd =>
          if headers then Prog.putStr 1 (header first f)
          first := false
          if allBut then
            match ← Prog.readAll fd with
            | .ok d =>
              if bytes then Prog.put 1 (d.extract 0 (d.size - k))
              else
                let (ls, endsNl) := lines d
                let kept := ls.take (ls.length - k)
                Prog.put 1 (joinLines kept (endsNl || kept.length < ls.length))
            | .error e =>
              complain called ("error reading " ++ quoteFile f ++ ": " ++ e.description)
              status := 1
          else
            let r ← if bytes then headBytes fd copyFuelLines k else headLines fd copyFuelLines k
            match r with
            | .ok () => pure ()
            | .error e =>
              complain called ("error reading " ++ quoteFile f ++ ": " ++ e.description)
              status := 1
          closeInput f fd
      pure status
where
  /-- The bound on reads of one input. -/
  copyFuelLines : Nat := 100000000

/-- `tail`: the last lines or bytes of each input. -/
def tail (argv : List String) : Prog Nat := do
  let called := argv.headD "tail"
  match options { flags := ['q', 'v', 'f', 'F', 'z', '\x03'], withArg := ['n', 'c', 's', '\x01', '\x02'], longs := [("bytes", 'c'), ("follow", 'f'), ("lines", 'n'), ("max-unchanged-stats", '\x01'), ("pid", '\x02'), ("quiet", 'q'), ("retry", '\x03'), ("silent", 'q'), ("sleep-interval", 's'), ("verbose", 'v'), ("zero-terminated", 'z'), ("help", helpLetter), ("version", versionLetter)], optional := ['f'] } (oldCount "-n" (argv.drop 1)) with
  | .error e =>
    complain called (e.message called)
    pure 1
  | .ok p =>
    let lastCount := (p.opts.filter fun (c, _) => c = 'n' || c = 'c').getLast?
    let (bytes, text) := match lastCount with
      | some ('c', v) => (true, v)
      | some (_, v) => (false, v)
      | none => (false, "10")
    let fromStart := text.startsWith "+"
    let digits := if text.startsWith "-" then (text.drop 1).toString else text
    let count : Except CountError Nat := match scaledCount digits countUnits with
      | .error .overflow => .ok countMax
      | r => r
    match count with
    | .error e =>
      complain called (countComplaint bytes digits e)
      pure 1
    | .ok k =>
      let files := if p.operands.isEmpty then ["-"] else p.operands
      let headers := (files.length > 1 || p.has 'v') && !p.has 'q'
      let mut status := 0
      let mut first := true
      for f in files do
        match ← readInput f with
        | .error e =>
          complain called ("cannot open " ++ quoteFile f ++ " for reading: " ++ e.description)
          status := 1
        | .ok d =>
          if headers then Prog.putStr 1 (header first f)
          first := false
          if bytes then
            Prog.put 1 (if fromStart then d.extract (k - 1) d.size else d.extract (d.size - k) d.size)
          else
            let (ls, endsNl) := lines d
            let kept := if fromStart then ls.drop (k - 1) else ls.drop (ls.length - k)
            Prog.put 1 (joinLines kept endsNl)
      pure status

/-- What `wc` counts in an input: lines, words, characters, bytes and the longest line. -/
structure Counts where
  lines : Nat
  words : Nat
  chars : Nat
  bytes : Nat
  longest : Nat

/-- Counting under way: lines, words and characters so far, whether a word is open, the
column reached in the current line and the widest line so far. -/
structure Tally where
  lines : Nat
  words : Nat
  chars : Nat
  inWord : Bool
  column : Nat
  longest : Nat

/-- Closes the open word, if any. -/
def Tally.gap (t : Tally) : Tally :=
  { t with words := if t.inWord then t.words + 1 else t.words, inWord := false }

/-- Ends the current line's width. -/
def Tally.lineEnd (t : Tally) : Tally :=
  { t with longest := max t.longest t.column, column := 0 }

/-- Counts one character. Newline, carriage return and form feed end a line's width; a tab
moves to the next multiple of 8; white space separates words; another printable character
takes its columns and opens a word; the others count as characters only. -/
def Tally.step (t : Tally) (c : Nat) : Tally :=
  let t := { t with chars := t.chars + 1 }
  if c = 10 then { t with lines := t.lines + 1 }.lineEnd.gap
  else if c = 13 || c = 12 then t.lineEnd.gap
  else if c = 9 then { t with column := t.column + 8 - t.column % 8 }.gap
  else if c = 32 then { t with column := t.column + 1 }.gap
  else if c = 11 then t.gap
  else if Text.Unicode.isPrint c then
    let t := { t with column := t.column + Text.Unicode.width c }
    if Text.Unicode.isSpace c then t.gap else { t with inWord := true }
  else t

/-- Counts the characters of bytes from a place; a byte that starts no well-formed character
counts as a byte only. -/
def tallyFrom (d : ByteArray) (i : Nat) (t : Tally) : Tally :=
  if i < d.size then
    match Text.charAt? d i with
    | some (c, n) => tallyFrom d (i + max n 1) (t.step c)
    | none => tallyFrom d (i + 1) t
  else t
termination_by d.size - i
decreasing_by all_goals omega

/-- Counts an input. -/
def count (d : ByteArray) : Counts :=
  let t := (tallyFrom d 0 ⟨0, 0, 0, false, 0, 0⟩).lineEnd.gap
  ⟨t.lines, t.words, t.chars, d.size, t.longest⟩

/-- The digits of a number, right-aligned to a width. -/
def padLeft (w : Nat) (n : Nat) : String :=
  let s := toString n
  "".pushn ' ' (w - s.length) ++ s

/-- `wc`: counts of each input, and their total when there are several. -/
def wc (argv : List String) : Prog Nat := do
  let called := argv.headD "wc"
  match options { flags := ['l', 'w', 'c', 'm', 'L', '\x01'], withArg := ['\x02'], longs := [("bytes", 'c'), ("chars", 'm'), ("debug", '\x01'), ("files0-from", '\x02'), ("lines", 'l'), ("max-line-length", 'L'), ("words", 'w'), ("help", helpLetter), ("version", versionLetter)] } (argv.drop 1) with
  | .error e =>
    complain called (e.message called)
    pure 1
  | .ok p =>
    let any := p.has 'l' || p.has 'w' || p.has 'c' || p.has 'm' || p.has 'L'
    let showL := p.has 'l' || !any
    let showW := p.has 'w' || !any
    let showM := p.has 'm'
    let showC := p.has 'c' || !any
    let showLong := p.has 'L'
    let shown := [showL, showW, showM, showC, showLong].count true
    let named := !p.operands.isEmpty
    let files := if named then p.operands else ["-"]
    -- the width of the counts: from the sizes of the regular inputs
    let width ← if files.length = 1 && shown = 1 then pure 1
      else do
        let infos ← files.mapM fun f => do
          if f = "-" then Prog.ask (.statFd 0) else Prog.ask (.stat f true)
        -- an input that cannot be examined counts for nothing
        let (total, minimum) := infos.foldl (fun (acc : Nat × Nat) i =>
          match i with
          | .ok info => if info.kind = .regular then (acc.1 + info.size, acc.2) else (acc.1, 7)
          | .error _ => acc) (0, 1)
        pure (max minimum (toString total).length)
    let line (c : Counts) (name : Option String) : String :=
      let nums := (if showL then [c.lines] else []) ++ (if showW then [c.words] else []) ++
        (if showM then [c.chars] else []) ++ (if showC then [c.bytes] else []) ++
        (if showLong then [c.longest] else [])
      " ".intercalate (nums.map (padLeft width)) ++ (name.map (" " ++ ·)).getD "" ++ "\n"
    let mut status := 0
    let mut total : Counts := ⟨0, 0, 0, 0, 0⟩
    for f in files do
      match ← readInput f with
      | .error e =>
        fileError called f e
        status := 1
      | .ok d =>
        let c := count d
        total := ⟨total.lines + c.lines, total.words + c.words, total.chars + c.chars,
          total.bytes + c.bytes, max total.longest c.longest⟩
        Prog.putStr 1 (line c (if named then some f else none))
    if files.length > 1 then Prog.putStr 1 (line total (some "total"))
    pure status

/-- Whether a byte is a blank: a space or a tab. -/
def isBlankByte (b : UInt8) : Bool :=
  b = 32 || b = 9

/-- The fields of a line: split at a separator, or at the start of each run of blanks. -/
def fields (sep : Option UInt8) (line : List UInt8) : List (List UInt8) :=
  match sep with
  | some s =>
    let (cur, acc) := line.foldl (fun (acc : List UInt8 × List (List UInt8)) b =>
      if b = s then ([], acc.1.reverse :: acc.2) else (b :: acc.1, acc.2)) ([], [])
    (cur.reverse :: acc).reverse
  | none =>
    let rec go : Nat → List UInt8 → List (List UInt8)
      | 0, _ => []
      | _ + 1, [] => []
      | fuel + 1, l =>
        let blanks := l.takeWhile isBlankByte
        let rest := l.drop blanks.length
        let word := rest.takeWhile (!isBlankByte ·)
        (blanks ++ word) :: go fuel (rest.drop word.length)
    go (line.length + 1) line

/-- Folds lower case letters to upper case. -/
def foldCase (l : List UInt8) : List UInt8 :=
  l.map fun b => if 97 ≤ b && b ≤ 122 then b - 32 else b

/-- `uniq`: adjacent equal lines once, optionally counted. -/
def uniq (argv : List String) : Prog Nat := do
  let called := argv.headD "uniq"
  match options { flags := ['c', 'd', 'u', 'i', 'D', 'z'], withArg := ['f', 's', 'w'], longs := [("count", 'c'), ("repeated", 'd'), ("all-repeated", 'D'), ("group", '\x01'), ("ignore-case", 'i'), ("unique", 'u'), ("skip-fields", 'f'), ("skip-chars", 's'), ("check-chars", 'w'), ("zero-terminated", 'z'), ("help", helpLetter), ("version", versionLetter)], optional := ['D', '\x01'] } (argv.drop 1) with
  | .error e =>
    complain called (e.message called)
    pure 1
  | .ok p =>
    -- a count of `-f`, `-s` or `-w`: decimal digits, at most `countMax`
    let size (c : Char) (what : String) : Except String (Option Nat) :=
      match p.arg? c with
      | none => .ok none
      | some a =>
        let t := a.trimAsciiStart.toString
        if !t.isEmpty && t.all Char.isDigit then .ok (some (min (t.toNat?.getD 0) countMax))
        else .error (a ++ ": " ++ what)
    let sizes := do
      let f ← size 'f' "invalid number of fields to skip"
      let s ← size 's' "invalid number of bytes to skip"
      let w ← size 'w' "invalid number of bytes to compare"
      pure (f, s, w)
    match sizes, p.operands with
    | .error m, _ =>
      complain called m
      pure 1
    | _, _ :: _ :: extra :: _ =>
      complain called ("extra operand " ++ quote extra ++ tryHelp called)
      pure 1
    | .ok (skipFields, skipChars, width), _ =>
    let skipFields := skipFields.getD 0
    let skipChars := skipChars.getD 0
    let eol : UInt8 := if p.has 'z' then 0 else 10
    let input := p.operands.headD "-"
    match ← readInput input with
    | .error e =>
      fileError called input e
      pure 1
    | .ok d =>
      let key (l : List UInt8) : List UInt8 :=
        let afterFields := ((fields none l).drop skipFields).flatten
        let k := afterFields.drop skipChars
        let k := match width with
          | some w => k.take w
          | none => k
        if p.has 'i' then foldCase k else k
      let ls := (linesBy eol d).1.map (·.toList)
      -- runs of lines with equal keys, each run in order
      let groups := ((ls.foldl (fun (acc : List (List UInt8 × List (List UInt8))) l =>
        match acc with
        | (first, members) :: rest =>
          if key first = key l then (first, l :: members) :: rest else (l, [l]) :: acc
        | [] => [(l, [l])]) []).map (·.2.reverse)).reverse
      let line (l : List UInt8) : ByteArray := (ByteArray.mk l.toArray).push eol
      let blank : ByteArray := ByteArray.mk #[eol]
      let outcome : Except String ByteArray :=
        if p.has '\x01' then
          if p.has 'c' || p.has 'd' || p.has 'D' || p.has 'u' then
            .error ("--group is mutually exclusive with -c/-d/-D/-u" ++ tryHelp called)
          else
            let typed := (p.arg? '\x01').getD ""
            let choices := ["prepend", "append", "separate", "both"]
            match if typed.isEmpty then some "separate" else argMatch? typed choices with
            | none => .error (argComplaint called "group" typed choices)
            | some how =>
              let body := groups.foldl (fun (acc : ByteArray × Bool) g =>
                let lead := if how = "prepend" || how = "both" || (how = "separate" && !acc.2)
                  then blank else ByteArray.empty
                let tail := if how = "append" then blank else ByteArray.empty
                (g.foldl (fun a l => a ++ line l) (acc.1 ++ lead) ++ tail, false))
                (ByteArray.empty, true)
              .ok (if how = "both" && !groups.isEmpty then body.1 ++ blank else body.1)
        else if p.has 'D' && p.has 'c' then
          .error ("printing all duplicated lines and repeat counts is meaningless" ++ tryHelp called)
        else
          let kept := groups.filter fun g =>
            (!(p.has 'd' || p.has 'D') || g.length > 1) && (!p.has 'u' || g.length = 1)
          if p.has 'D' then
            let typed := (p.arg? 'D').getD ""
            let choices := ["none", "prepend", "separate"]
            match if typed.isEmpty then some "none" else argMatch? typed choices with
            | none => .error (argComplaint called "all-repeated" typed choices)
            | some how =>
              .ok (kept.foldl (fun (acc : ByteArray × Bool) g =>
                let lead := if how = "prepend" || (how = "separate" && !acc.2) then blank
                  else ByteArray.empty
                (g.foldl (fun a l => a ++ line l) (acc.1 ++ lead), false))
                (ByteArray.empty, true)).1
          else
            .ok (kept.foldl (fun (acc : ByteArray) g =>
              let lead := if p.has 'c' then (padLeft 7 g.length ++ " ").toUTF8 else ByteArray.empty
              acc ++ lead ++ line (g.headD [])) ByteArray.empty)
      let out ← match outcome with
        | .ok out => pure out
        | .error m => do
          complain called m
          return 1
      match p.operands with
      | [_, outFile] =>
        match ← Prog.ask (.openFile outFile (.write false true)) with
        | .ok fd =>
          Prog.put fd out
          let _ ← Prog.ask (.close fd)
          pure 0
        | .error e =>
          fileError called outFile e
          pure 1
      | _ =>
        Prog.put 1 out
        pure 0

/-- Reverses the characters of a line; bytes that are no text are reversed one by one. -/
def reverseLine (l : ByteArray) : ByteArray :=
  match String.fromUTF8? l with
  | some s => (String.ofList s.toList.reverse).toUTF8
  | none => ByteArray.mk l.toList.reverse.toArray

/-- `rev`: each line with its characters reversed. -/
def rev (argv : List String) : Prog Nat := do
  let called := argv.headD "rev"
  let (ins, ok) ← inputs called (argv.drop 1)
  for (_, d) in ins do
    let (ls, endsNl) := lines d
    Prog.put 1 (joinLines (ls.map reverseLine) endsNl)
  pure (if ok then 0 else 1)

/-- `tac`: the lines of each input in reverse order. -/
def tac (argv : List String) : Prog Nat := do
  let called := argv.headD "tac"
  let (ins, ok) ← inputs called (argv.drop 1)
  for (_, d) in ins do
    let (ls, endsNl) := lines d
    let pieces := ls.reverse.zipIdx.map fun (l, i) =>
      if i = 0 && !endsNl then l else l.push 10
    Prog.put 1 (pieces.foldl (· ++ ·) ByteArray.empty)
  pure (if ok then 0 else 1)

end Tool

end JobControl.Host
