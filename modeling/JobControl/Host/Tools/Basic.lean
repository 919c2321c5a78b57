import JobControl.Host.Tools.Utility
import JobControl.Host.Format
import JobControl.Host.Signal

/-!
# Utilities: the small ones

`true`, `false`, `echo`, `yes`, `sleep`, `kill`, `printf`, `pwd`, `env`,
`basename`, `dirname`, and `cat` and `tee`, which copy their input as it comes.

* `echo` takes leading options made only of `n`, `e` and `E`; with `-e` it reads backslash
  escapes;
* `sleep` adds up its operands, each a decimal number of seconds with an optional unit `s`,
  `m`, `h` or `d`, and waits that long on the host's clock (nanoseconds);
* `kill` sends a signal (`-s NAME`, `-NAME`, `-N`; TERM by default) to each pid, a negative pid
  naming a group;
* `cat` numbers lines with `-n` (or only non-empty ones with `-b`), marks line ends with `-E`,
  tabs with `-T`, and squeezes repeated empty lines with `-s`.
-/

namespace JobControl.Host

open Sys

namespace Tool

/-- The bound on rounds of the utilities that copy input until it ends. -/
def copyFuel : Nat := 100000000

/-- Copies a descriptor to standard output until its input ends. -/
def copyOut (fd : Nat) : Nat → Prog (Except Errno Unit)
  | 0 => pure (.ok ())
  | fuel + 1 => do
    match ← Prog.ask (.read fd 65536) with
    | .error e => pure (.error e)
    | .ok chunk =>
      if chunk.size = 0 then pure (.ok ())
      else
        Prog.put 1 chunk
        copyOut fd fuel

/-- `echo`: the operands joined by spaces, then a newline. -/
def echo (argv : List String) : Prog Nat := do
  let isOpt (a : String) := a.length > 1 && a.startsWith "-" &&
    (a.drop 1).toString.toList.all fun c => c = 'n' || c = 'e' || c = 'E'
  let opts := (argv.drop 1).takeWhile isOpt
  let args := (argv.drop 1).drop opts.length
  let flags := opts.flatMap fun o => (o.drop 1).toString.toList
  let newline := !flags.contains 'n'
  let escapes := flags.foldl (fun e c => if c = 'e' then true else if c = 'E' then false else e) false
  let text := " ".intercalate args
  let (out, stopped) :=
    if escapes then Format.withEscapes ⟨false, true, true, false⟩ (text.length + 1) text.toList
    else (text.toUTF8, false)
  Prog.put 1 (if newline && !stopped then out.push 10 else out)
  pure 0

/-- The options of the utilities that take only `--help` and `--version`, anywhere among the
operands. -/
def standardOnly : OptSpec :=
  { flags := [], withArg := [], longs := [("help", helpLetter), ("version", versionLetter)] }

/-- `yes`: the operands (or `y`) as a line, again and again. -/
def yes (argv : List String) : Prog Nat := do
  let called := argv.headD "yes"
  match options standardOnly (argv.drop 1) with
  | .error e =>
    complain called (e.message called)
    pure 1
  | .ok p =>
  let line := (if p.operands.isEmpty then "y" else " ".intercalate p.operands) ++ "\n"
  let block := String.join (List.replicate (8192 / line.utf8ByteSize + 1) line)
  let rec loop : Nat → Prog Nat
    | 0 => pure 0
    | n + 1 => do
      match ← Prog.ask (.write 1 block.toUTF8) with
      | .ok () => loop n
      | .error e =>
        complain called ("standard output: " ++ e.description)
        pure 1
  loop copyFuel

/-- The nanoseconds of an endless wait: longer than any run. -/
def forever : Nat := Nat.pow 2 64

/-- The nanoseconds of a number of seconds `mant · 2^exp`, rounded down. -/
def nanosOf (mant : Nat) (exp : Int) : Nat :=
  if exp ≥ 0 then mant * Nat.pow 2 exp.toNat * 1000000000 else mant * 1000000000 / Nat.pow 2 (-exp).toNat

/-- The nanoseconds an operand of `sleep` stands for: a number as `strtod` reads it, not below
zero, with at most one unit letter after it (`s`, `m`, `h` or `d`); an infinite number waits
for ever. None for anything else. -/
def duration (s : String) : Option Nat :=
  match Binary.read 53 s.toList with
  | none => none
  | some (v, _, rest) =>
    let unit : Option Nat := match rest with
      | [] | ['s'] => some 1
      | ['m'] => some 60
      | ['h'] => some 3600
      | ['d'] => some 86400
      | _ => none
    match unit, v with
    | some u, .finite neg m e => if neg && m ≠ 0 then none else some (nanosOf m e * u)
    | some _, .infinite false => some forever
    | _, _ => none

/-- `sleep`: waits for the sum of its operands; each that is no interval is complained about. -/
def sleep (argv : List String) : Prog Nat := do
  let called := argv.headD "sleep"
  match options standardOnly (argv.drop 1) with
  | .error e =>
    complain called (e.message called)
    pure 1
  | .ok p =>
    let args := p.operands
    if args.isEmpty then
      complain called ("missing operand" ++ tryHelp called)
      return 1
    let ds := args.map duration
    let bad := (args.zip ds).filter (·.2.isNone)
    if !bad.isEmpty then
      for (a, _) in bad do
        complain called ("invalid time interval " ++ quote a)
      Prog.putStr 2 (((tryHelp called).drop 1).toString ++ "\n")
      return 1
    let total := (ds.map (·.getD 0)).foldl (· + ·) 0
    let now : Nat ← Prog.ask .clock
    Prog.ask (.sleepUntil (now + total))
    pure 0

/-- `kill`: sends a signal to processes. -/
def kill (argv : List String) : Prog Nat := do
  let called := argv.headD "kill"
  let args := argv.drop 1
  match args with
  | "-l" :: _ | "-L" :: _ =>
    let names := (List.range 32).filterMap Signal.name?
    Prog.putStr 1 (" ".intercalate names ++ "\n")
    pure 0
  | _ =>
    let (sig, pids) : Option Nat × List String := match args with
      | "-s" :: name :: rest => (Signal.ofText? name, rest)
      | a :: rest =>
        if a.startsWith "-" && a.length > 1 && !((a.drop 1).toString.all Char.isDigit && rest.isEmpty) then
          (Signal.ofText? (a.drop 1).toString, rest)
        else (some 15, a :: rest)
      | [] => (some 15, [])
    let pids := match pids with
      | "--" :: r => r
      | r => r
    match sig with
    | none =>
      complain called ("unknown signal name: " ++ ((args.headD "").drop 1).toString)
      pure 1
    | some s =>
      if pids.isEmpty then
        complain called "not enough arguments"
        return 1
      let mut status := 0
      for p in pids do
        let target : Option Int := match p.toList with
          | '-' :: ds => (String.ofList ds).toNat?.map fun n => -(n : Int)
          | _ => p.toNat?.map fun n => (n : Int)
        match target with
        | none =>
          complain called ("failed to parse argument: '" ++ p ++ "'")
          status := 1
        | some t =>
          match ← Prog.ask (.kill t s) with
          | .ok () => pure ()
          | .error e =>
            complain called ("(" ++ p ++ ") - " ++ e.description)
            status := 1
      pure status

/-- `printf`: fills a format with the operands. -/
def printf (argv : List String) : Prog Nat := do
  let called := argv.headD "printf"
  let operands := match argv.drop 1 with
    | "--" :: rest => rest
    | rest => rest
  match operands with
  | [] =>
    complain called ("missing operand" ++ tryHelp called)
    pure 1
  | format :: args =>
    let written := Format.render 64 format args
    let mut status := 0
    for w in written do
      match w with
      | .bytes b => Prog.put 1 b
      | .complaint c =>
        complain called c.text
        if c.fails then status := 1
    pure status

/-- `pwd`: the working directory. -/
def pwd (argv : List String) : Prog Nat := do
  let called := argv.headD "pwd"
  match options { flags := ['L', 'P'], withArg := [], longs := [("logical", 'L'), ("physical", 'P'), ("help", helpLetter), ("version", versionLetter)] } (argv.drop 1) with
  | .error e =>
    complain called (e.message called)
    pure 1
  | .ok p =>
    if !p.operands.isEmpty then complain called "ignoring non-option arguments"
    match ← Prog.ask .currentDir with
    | .ok d =>
      Prog.putStr 1 (d ++ "\n")
      pure 0
    | .error e =>
      complain called e.description
      pure 1

/-- What `env` read from its options: whether the environment starts empty, the names to
remove from it, whether to end each variable it prints with a NUL, and the directory to run
the command in. -/
structure EnvOptions where
  clear : Bool
  unset : List String
  nul : Bool
  dir : Option String

/-- Splits the argument of `-S` at blanks into words. -/
def splitWords (s : String) : List String :=
  (s.split (fun c => c = ' ' || c = '\t' || c = '\n')).toList.map (·.toString) |>.filter (!·.isEmpty)

/-- The options of `env`. -/
def envSpec : OptSpec :=
  { flags := ['i', '0', 'v'], withArg := ['u', 'C', 'S'], longs := [("ignore-environment", 'i'), ("null", '0'), ("unset", 'u'), ("chdir", 'C'), ("split-string", 'S'), ("debug", 'v'), ("help", helpLetter), ("version", versionLetter)] }

/-- Reads the options of `env`, which end at the first operand; an `-S` argument is split
into words that are read in its place. `fuel` bounds the arguments read. -/
def envOptions : Nat → EnvOptions → List String → Except OptError (EnvOptions × List String)
  | 0, o, args => .ok (o, args)
  | _ + 1, o, [] => .ok (o, [])
  | fuel + 1, o, a :: rest =>
    let spec := envSpec
    let apply (o : EnvOptions) (opt : Char × String) : EnvOptions :=
      match opt.1 with
      | 'i' => { o with clear := true }
      | '0' => { o with nul := true }
      | 'u' => { o with unset := o.unset ++ [opt.2] }
      | 'C' => { o with dir := some opt.2 }
      | _ => o
    let continueWith (opts : List (Char × String)) (rest : List String) :=
      let split := (opts.filter (·.1 = 'S')).flatMap fun (_, w) => splitWords w
      envOptions fuel (opts.foldl apply o) (split ++ rest)
    if a = "--" then .ok (o, rest)
    else if a.startsWith "--" then
      match longOption spec (a.drop 2).toString rest with
      | .error e => .error e
      | .ok (opt, rest) => continueWith [opt] rest
    else if a.startsWith "-" && a.length > 1 then
      match group spec (a.drop 1).toString.toList rest with
      | .error e => .error e
      | .ok (opts, rest) => continueWith opts rest
    else .ok (o, a :: rest)

/-- Sets a variable, in its place if it is there and last otherwise. -/
def setVar (vars : List (String × String)) (name value : String) : List (String × String) :=
  if vars.any (·.1 = name) then vars.map fun (k, v) => if k = name then (k, value) else (k, v)
  else vars ++ [(name, value)]

/-- `env`: runs a command in a changed environment, or prints the environment. Options
come first; then every operand with a `=` in it sets a variable (the name before the first
`=` may be empty); the rest is the command. A lone `-` clears the environment. -/
def env (argv : List String) : Prog Nat := do
  let called := argv.headD "env"
  let start ← Prog.ask .environment
  match envOptions argv.length ⟨false, [], false, none⟩ (argv.drop 1) with
  | .error e =>
    complain called (e.message called)
    pure 125
  | .ok (o, rest) =>
    let (o, rest) := match rest with
      | "-" :: more => ({ o with clear := true }, more)
      | _ => (o, rest)
    let vars := if o.clear then [] else start.filter fun (k, _) => !o.unset.contains k
    let assignments := rest.takeWhile (·.contains '=')
    let command := rest.drop assignments.length
    let vars := assignments.foldl (fun vs a =>
      match a.splitOn "=" with
      | name :: value => setVar vs name ("=".intercalate value)
      | [] => vs) vars
    match command, o.dir with
    | [], some _ =>
      complain called ("must specify command with --chdir (-C)" ++ tryHelp called)
      pure 125
    | [], none =>
      let ending := if o.nul then "\x00" else "\n"
      Prog.putStr 1 (String.join (vars.map fun (k, v) => k ++ "=" ++ v ++ ending))
      pure 0
    | cmd :: args, dir =>
      if o.nul then
        complain called ("cannot specify --null (-0) with command" ++ tryHelp called)
        pure 125
      else
        let moved ← match dir with
          | some d => do
            match ← Prog.ask (.changeDir d) with
            | .ok () => pure true
            | .error e =>
              complain called ("cannot change directory to " ++ quoteFile d ++ ": " ++ e.description)
              pure false
          | none => pure true
        if !moved then pure 125
        else
          let e : Errno ← Prog.ask (.exec cmd (cmd :: args) vars)
          complain called (quote cmd ++ ": " ++ e.description)
          pure (if e == .noent then 127 else 126)

/-- `printenv`: the values of the named variables, or the whole environment. -/
def printenv (argv : List String) : Prog Nat := do
  let called := argv.headD "printenv"
  match options { flags := ['0'], withArg := [], longs := [("null", '0'), ("help", helpLetter), ("version", versionLetter)] } (argv.drop 1) with
  | .error e =>
    complain called (e.message called)
    pure 2
  | .ok p =>
    let vars ← Prog.ask .environment
    let ending := if p.has '0' then "\x00" else "\n"
    match p.operands with
    | [] =>
      Prog.putStr 1 (String.join (vars.map fun (k, v) => k ++ "=" ++ v ++ ending))
      pure 0
    | names =>
      let found := names.filterMap fun n => if n.contains '=' then none else List.lookup n vars
      Prog.putStr 1 (String.join (found.map (· ++ ending)))
      pure (if found.length = names.length then 0 else 1)

/-- The last component of a path, without trailing slashes: `/` for a path of slashes only,
and the empty path for the empty path. -/
def baseNameOf (p : String) : String :=
  let cs := p.toList.reverse.dropWhile (· = '/')
  if cs.isEmpty then (if p.isEmpty then "" else "/")
  else String.ofList (cs.takeWhile (· ≠ '/')).reverse

/-- Where the last component of a path starts: after the leading slashes, at the last
character that follows a slash. -/
def lastComponentStart (cs : List Char) : Nat :=
  let lead := (cs.takeWhile (· = '/')).length
  let step (acc : Nat × Bool × Nat) (c : Char) : Nat × Bool × Nat :=
    let (base, afterSlash, i) := acc
    if c = '/' then (base, true, i + 1)
    else if afterSlash then (i, false, i + 1)
    else (base, false, i + 1)
  ((cs.drop lead).foldl step (lead, false, lead)).1

/-- The directory part of a path: the path before its last component, without the slashes
that end it, except a leading one; `.` when that is empty. -/
def dirNameOf (p : String) : String :=
  let cs := p.toList
  let root := if cs.head? = some '/' then 1 else 0
  let base := lastComponentStart cs
  let slashes := ((cs.take base).reverse.takeWhile (· = '/')).length
  let len := if base ≤ root then base else max root (base - slashes)
  if len = 0 then "." else String.ofList (cs.take len)

example : dirNameOf "///a///b///" = "///a" := by decide

/-- A name without a suffix, unless the name is the suffix or starts at the root. -/
def withoutSuffix (name suffix : String) : String :=
  if !name.startsWith "/" && name.endsWith suffix && name ≠ suffix then
    (name.dropEnd suffix.length).toString
  else name

/-- `basename`: the last component of a path, without a suffix given as a second operand;
with `-a` or `-s SUFFIX`, of every operand. -/
def basename (argv : List String) : Prog Nat := do
  let called := argv.headD "basename"
  match options { flags := ['a', 'z'], withArg := ['s'], longs := [("multiple", 'a'), ("suffix", 's'), ("zero", 'z'), ("help", helpLetter), ("version", versionLetter)] } (argv.drop 1) with
  | .error e =>
    complain called (e.message called)
    pure 1
  | .ok p =>
    let suffix := p.arg? 's'
    let multiple := p.has 'a' || suffix.isSome
    let ending := if p.has 'z' then "\x00" else "\n"
    match p.operands with
    | [] =>
      complain called ("missing operand" ++ tryHelp called)
      pure 1
    | first :: more =>
      let extra := if multiple then none else more[1]?
      match extra with
      | some x =>
        complain called ("extra operand " ++ quote x ++ tryHelp called)
        pure 1
      | none =>
        let (names, suffix) := if multiple then (first :: more, suffix) else ([first], more.head?)
        for n in names do
          Prog.putStr 1 (withoutSuffix (baseNameOf n) (suffix.getD "") ++ ending)
        pure 0

/-- `dirname`: the directory part of each operand. -/
def dirname (argv : List String) : Prog Nat := do
  let called := argv.headD "dirname"
  match options { flags := ['z'], withArg := [], longs := [("zero", 'z'), ("help", helpLetter), ("version", versionLetter)] } (argv.drop 1) with
  | .error e =>
    complain called (e.message called)
    pure 1
  | .ok p =>
    let ending := if p.has 'z' then "\x00" else "\n"
    match p.operands with
    | [] =>
      complain called ("missing operand" ++ tryHelp called)
      pure 1
    | ps =>
      for path in ps do
        Prog.putStr 1 (dirNameOf path ++ ending)
      pure 0

/-- Shows a byte as `cat -v` does. -/
def visible (b : UInt8) : List UInt8 :=
  let n := b.toNat
  let caret (k : Nat) : List UInt8 := [94, UInt8.ofNat k]
  if n = 9 || n = 10 then [b]
  else if n < 32 then caret (n + 64)
  else if n = 127 then caret 63
  else if n < 128 then [b]
  else
    let m := n - 128
    let rest := if m < 32 then caret (m + 64) else if m = 127 then caret 63 else [UInt8.ofNat m]
    [77, 45] ++ rest

/-- The options of `cat` that change what it writes. -/
structure CatStyle where
  number : Bool
  numberNonBlank : Bool
  ends : Bool
  tabs : Bool
  squeeze : Bool
  nonprinting : Bool

/-- Where `cat` stands in its input, from one input to the next: `newlines` is the number of
newlines just passed (at most 2), `none` inside a line; `next` is the next line number. -/
structure CatState where
  newlines : Option Nat
  next : Nat

/-- The number `cat` puts before a line: right-aligned in six columns, and a tab. -/
def lineNumber (n : Nat) : ByteArray :=
  let s := toString n
  ("".pushn ' ' (6 - s.length) ++ s ++ "\t").toUTF8

/-- Writes one byte as `cat` with options does. A newline after another is an empty line:
numbered by `-n` (not by `-b`), and dropped by `-s` when a third in a row. Any other byte at
the start of a line gets the line's number first. -/
def CatStyle.step (st : CatStyle) (acc : ByteArray × CatState) (b : UInt8) : ByteArray × CatState :=
  let (out, state) := acc
  let numbered := st.number || st.numberNonBlank
  if b = 10 then
    let k := match state.newlines with
      | none => 0
      | some k => min (k + 1) 2
    if k = 2 && st.squeeze then (out, { state with newlines := some k })
    else
      let (lead, next) := if k ≥ 1 && numbered && !st.numberNonBlank then
          (lineNumber state.next, state.next + 1)
        else (ByteArray.empty, state.next)
      let eol := if st.ends then ByteArray.mk #[36, 10] else ByteArray.mk #[10]
      (out ++ lead ++ eol, ⟨some k, next⟩)
  else
    let (lead, next) := if state.newlines.isSome && numbered then
        (lineNumber state.next, state.next + 1)
      else (ByteArray.empty, state.next)
    let body := if b = 9 then (if st.tabs then [94, 73] else [b])
      else if st.nonprinting then visible b else [b]
    (body.foldl ByteArray.push (out ++ lead), ⟨none, next⟩)

/-- Writes bytes as `cat` with options does, from a state to a state. -/
def styled (st : CatStyle) (d : ByteArray) (state : CatState) : ByteArray × CatState :=
  d.foldl st.step (ByteArray.empty, state)

/-- `cat`: copies its inputs in order to standard output. -/
def cat (argv : List String) : Prog Nat := do
  let called := argv.headD "cat"
  match options { flags := ['A', 'b', 'e', 'E', 'n', 's', 't', 'T', 'u', 'v'], withArg := [], longs := [("number-nonblank", 'b'), ("number", 'n'), ("squeeze-blank", 's'), ("show-nonprinting", 'v'), ("show-ends", 'E'), ("show-tabs", 'T'), ("show-all", 'A'), ("help", helpLetter), ("version", versionLetter)] } (argv.drop 1) with
  | .error e =>
    complain called (e.message called)
    pure 1
  | .ok p =>
    let st : CatStyle := ⟨p.has 'n', p.has 'b', p.has 'E' || p.has 'A' || p.has 'e',
      p.has 'T' || p.has 'A' || p.has 't', p.has 's', p.has 'v' || p.has 'A' || p.has 'e' || p.has 't'⟩
    let plain := !(st.number || st.numberNonBlank || st.ends || st.tabs || st.squeeze || st.nonprinting)
    let files := if p.operands.isEmpty then ["-"] else p.operands
    let mut status := 0
    let mut state : CatState := ⟨some 0, 1⟩
    for f in files do
      let fd ← if f = "-" then pure (.ok 0) else Prog.ask (.openFile f .read)
      match fd with
      | .error e =>
        fileError called f e
        status := 1
      | .ok fd =>
        if plain then
          match ← copyOut fd copyFuel with
          | .ok () => pure ()
          | .error e =>
            fileError called f e
            status := 1
        else
          match ← Prog.readAll fd with
          | .ok d =>
            let (out, state') := styled st d state
            Prog.put 1 out
            state := state'
          | .error e =>
            fileError called f e
            status := 1
        if f ≠ "-" then
          let _ ← Prog.ask (.close fd)
    pure status

/-- `tee`: copies standard input to standard output and to each file. -/
def tee (argv : List String) : Prog Nat := do
  let called := argv.headD "tee"
  match options { flags := ['a', 'i', 'p'], withArg := [] } (argv.drop 1) with
  | .error e =>
    complain called (e.message called)
    pure 1
  | .ok p =>
    let append := p.has 'a'
    let mut fds := []
    let mut status := 0
    for f in p.operands do
      match ← Prog.ask (.openFile f (.write append (!append))) with
      | .ok fd => fds := fds ++ [fd]
      | .error e =>
        fileError called f e
        status := 1
    let rec loop (fds : List Nat) : Nat → Prog Unit
      | 0 => pure ()
      | n + 1 => do
        match ← Prog.ask (.read 0 65536) with
        | .ok chunk =>
          if chunk.size = 0 then pure ()
          else
            Prog.put 1 chunk
            for fd in fds do
              Prog.put fd chunk
            loop fds n
        | .error _ => pure ()
    loop fds copyFuel
    pure status

end Tool

end JobControl.Host
