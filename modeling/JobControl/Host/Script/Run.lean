import JobControl.Host.Script.Builtin
import JobControl.Host.Script.Redirect

/-!
# Shell scripts: running commands

The evaluator of the command language, as a program of the process that runs the script.

* A simple command expands its words, looks its name up (`findCommand`), applies its
  redirections, makes its assignments and runs a special builtin, a function, a builtin or a
  file. Assignments alone, or before a special builtin, stay; before anything else they last
  for the command, which sees them exported. With `set -x` the command is traced after its
  assignments. A file runs in a child that the shell waits for, or, when nothing follows it in
  the process and no descriptor is redirected, in place of the shell.
* After `export`, `readonly` or `local`, an argument written as an assignment is expanded as
  one: not split into fields, and with `~` after `=` and each `:`.
* A pipeline runs each command in a child, joined by pipes, and has the status of the last;
  `!` inverts it. A command followed by `&` runs in a child whose input is the null device,
  and is not waited for.
* `&&`, `||`, `if`, `while`, `until`, `for`, `case`, `{ }` and `( )` behave as usual; `break`
  and `continue` reach as many loops as there are around them in the function, and `return`
  ends the function, the sourced file or the script.
* A builtin's complaint ends the shell after a special builtin (unless `command` runs it),
  and is status 2 after any other.
* `exit`, a failed expansion, a syntax error and an assignment to a read-only variable end
  the shell; with `set -e` so does a failing command whose status is not tested.

`run` takes a depth bound; loops take an iteration bound.
-/

namespace JobControl.Host.Script

open Sys

/-! ## Running files -/

/-- The status and complaint for a file that cannot be run. -/
def notRunnable (f : Frame) (name : String) (e : Errno) : Prog Ran := do
  match e with
  | .noent =>
    f.report (name ++ ": not found")
    finish f 127
  | .acces =>
    f.report (name ++ ": Permission denied")
    finish f 126
  | e =>
    f.report (name ++ ": " ++ e.description)
    finish f 2

/-- Waits for a child and takes its status; an end by a signal other than INT or PIPE is
reported. -/
def awaitChild (f : Frame) (pid : Int32) : Prog Ran := do
  match ← Prog.awaitEnd pid Prog.interruptFuel with
  | .ok ending =>
    match ending with
    | .signaled sig =>
      if sig ≠ 2 && sig ≠ 13 then f.put 2 (Signal.description sig ++ "\n")
    | .exited _ => pure ()
    finish f ending.status
  | .error _ => finish f 127

/-- The arguments and environment of a program, as the programs read them. -/
def programArgs (f : Frame) (argv : List String) : List String × List (String × String) :=
  (argv.map Text.decodeBytes,
    f.environment.map fun (n, v) => (Text.decodeBytes n, Text.decodeBytes v))

/-- Runs a file with arguments: in place of the shell when `inPlace`, else in a child. -/
def external (inPlace : Bool) (f : Frame) (name path : String) (args : List String) :
    Prog Ran := do
  let (argv, env) := programArgs f (name :: args)
  let real := Text.decodeBytes path
  if inPlace && f.plainIo then
    let e ← Prog.ask (.exec real argv env)
    notRunnable f name e
  else
    match ← Prog.ask (.spawn (.exec real argv env) f.io) with
    | .error e => notRunnable f name e
    | .ok pid => awaitChild f pid

/-- Ends the process as the child it waited for ended: with its code, or by its signal. -/
def endAsChild {α : Type} (ending : Ending) : Prog α := do
  match ending with
  | .exited code => Prog.exit code
  | .signaled sig =>
    Prog.ask (.setSignal sig .byDefault)
    let (pid, _) ← Prog.ask .self
    let _ ← Prog.ask (.kill (pid.toInt) sig)
    Prog.exit (128 + sig)

/-- `exec name args`: the file found in `PATH` replaces the shell, with no exit trap. With
descriptors redirected the file runs in a child whose end is the shell's own. A file that
cannot run ends the shell. -/
def execBuiltin (f : Frame) (cmd : String) (args : List String) : Prog Ran := do
  let g := { f with context := some "exec" }
  let path ← if cmd.toList.contains '/' then pure (some cmd) else searchFile f.searchPath cmd
  match path with
  | none =>
    g.report (cmd ++ ": not found")
    Prog.leaveShell f 127
  | some p =>
    let (argv, env) := programArgs f (cmd :: args)
    if f.plainIo then
      let e ← Prog.ask (.exec (Text.decodeBytes p) argv env)
      let (h, _) ← notRunnable g cmd e
      Prog.leaveShell f h.status
    else
      match ← Prog.ask (.spawn (.exec (Text.decodeBytes p) argv env) f.io) with
      | .error e =>
        let (h, _) ← notRunnable g cmd e
        Prog.leaveShell f h.status
      | .ok pid =>
        match ← Prog.awaitEnd pid Prog.interruptFuel with
        | .ok ending => endAsChild ending
        | .error _ => Prog.exit 127

/-! ## Loops and functions -/

/-- Runs the body of a function with the arguments as positional parameters: what `local`
kept is restored when it returns, and so are the positional parameters and where `getopts`
stands. -/
def callFunction (runBody : Frame → Prog Ran) (f : Frame) (args : List String) : Prog Ran := do
  let inner := { f with params := args, locals := [] :: f.locals, loops := 0, optIndex := 1,
                        optOffset := none }
  let (g, flow) ← runBody inner
  let g := restoreLocals { g with locals := g.locals.drop 1 } (g.locals.headD [])
  pure ({ g with params := f.params, loops := f.loops, optIndex := f.optIndex,
                 optOffset := f.optOffset }, if flow = .leave then .normal else flow)

/-- Runs a loop while (or until) its condition succeeds; `status` is that of the last body.
`bound` limits the rounds. -/
def whileLoop (isUntil : Bool) (cond body : Frame → Prog Ran) : Nat → Nat → Frame → Prog Ran
  | 0, status, f => finish f status
  | bound + 1, status, f => do
    let (f, flow) ← cond f
    match flow with
    | .breakLoop k => if k ≤ 1 then finish f status else pure (f, .breakLoop (k - 1))
    | .continueLoop k =>
      if k ≤ 1 then whileLoop isUntil cond body bound status f else pure (f, .continueLoop (k - 1))
    | .leave => pure (f, .leave)
    | .normal =>
      if (f.status = 0) == isUntil then finish f status
      else
        let (f, flow) ← body f
        match flow with
        | .breakLoop k => if k ≤ 1 then pure (f, .normal) else pure (f, .breakLoop (k - 1))
        | .continueLoop k =>
          if k ≤ 1 then whileLoop isUntil cond body bound f.status f
          else pure (f, .continueLoop (k - 1))
        | .leave => pure (f, .leave)
        | .normal => whileLoop isUntil cond body bound f.status f

/-- Runs the body of a `for` once for each value. -/
def forLoop (var : String) (body : Frame → Prog Ran) : List String → Nat → Frame → Prog Ran
  | [], status, f => finish f status
  | v :: vs, _, f => do
    let f ← match f.assign var v with
      | .ok g => pure g
      | .error m => abort f m
    let (f, flow) ← body f
    match flow with
    | .breakLoop k => if k ≤ 1 then pure (f, .normal) else pure (f, .breakLoop (k - 1))
    | .continueLoop k =>
      if k ≤ 1 then forLoop var body vs f.status f else pure (f, .continueLoop (k - 1))
    | .leave => pure (f, .leave)
    | .normal => forLoop var body vs f.status f

/-- Runs a loop with one more loop around its commands. -/
def inLoop (f : Frame) (k : Frame → Prog Ran) : Prog Ran := do
  let (g, flow) ← k { f with loops := f.loops + 1 }
  pure ({ g with loops := f.loops }, flow)

/-- The first arm of a `case` with a pattern that matches the subject. -/
def caseArm (subject : String) : List (List Word × Cmd) → Frame → Prog (Option Cmd × Frame)
  | [], f => pure (none, f)
  | (pats, body) :: arms, f => do
    let (hit, f) ← anyPattern pats f
    if hit then pure (some body, f) else caseArm subject arms f
where
  /-- Whether one of the patterns matches the subject. -/
  anyPattern : List Word → Frame → Prog (Bool × Frame)
    | [], f => pure (false, f)
    | w :: ws, f => do
      let (pat, f, _) ← expanding f (expandPattern w)
      if Pattern.accepts pat subject.toList then pure (true, f) else anyPattern ws f

/-! ## Texts of commands -/

/-- Runs commands of a text one after another in the current shell; a syntax error ends the
shell. `bound` limits the commands. -/
def runText (runner : Runner) (mode : Mode) : Nat → Src → Frame → Prog Ran
  | 0, _, f => finish f f.status
  | bound + 1, src, f =>
    match { src with aliases := f.aliases }.command with
    | .error e => abort { f with line := e.line } e.message
    | .ok none => pure (f, .normal)
    | .ok (some (c, line, rest)) => do
      let (f, flow) ← runner c mode { f with line := line }
      if flow ≠ .normal then pure (f, flow) else runText runner mode bound rest f

/-- Runs a text as `eval`, `.` or a trap does: its lines count from 1, and its complaints name
`context` when it is given; the line and context come back afterwards. -/
def runTextAs (runner : Runner) (mode : Mode) (context : Option String) (text : String)
    (f : Frame) : Prog Ran := do
  let (g, flow) ← runText runner mode (text.length + 1) (Src.ofText text f.aliases)
    { f with context := context.orElse fun _ => f.context }
  pure ({ g with line := f.line, context := f.context }, flow)

/-! ## Traces and assignments -/

/-- Puts `~` expansions into the value of an assignment: at its start and after each `:`,
a `~` and the name after it up to `/` or `:` stand for a home directory. -/
def valueTildes (w : Word) : Word :=
  go true w
where
  /-- Splits the literal pieces; `atStart` says whether a tilde may begin here. -/
  go (atStart : Bool) : Word → Word
    | [] => []
    | .lit s :: rest =>
      let pieces := splitLit atStart (s.length + 1) s.toList
      let endsOpen := (s.toList.getLast?.map (· == ':')).getD atStart
      pieces ++ go endsOpen rest
    | p :: rest => p :: go false rest
  /-- The pieces of one literal text. -/
  splitLit (atStart : Bool) : Nat → List Char → List Part
    | 0, _ => []
    | _, [] => []
    | fuel + 1, cs =>
      match cs with
      | '~' :: more =>
        if atStart then
          let user := more.takeWhile fun c => c ≠ '/' && c ≠ ':'
          let after := more.drop user.length
          if user.all fun c => isNameChar c || c = '.' || c = '-' then
            .tilde (String.ofList user) :: splitLit false fuel after
          else literal cs fuel
        else literal cs fuel
      | _ => literal cs fuel
  /-- A literal run up to and including the next `:`, then what follows. -/
  literal (cs : List Char) (fuel : Nat) : List Part :=
    let run := cs.takeWhile (· ≠ ':')
    let rest := cs.drop run.length
    match rest with
    | ':' :: more => .lit (String.ofList (run ++ [':'])) :: splitLit true fuel more
    | _ => [.lit (String.ofList run)]

/-- The name and value word of an argument written as an assignment. -/
def assignmentWord? (w : Word) : Option (String × Word) :=
  match w with
  | .lit s :: rest =>
    let name := s.toList.takeWhile isNameChar
    match s.toList.drop name.length with
    | '=' :: value =>
      if isName (String.ofList name) then
        some (String.ofList name, if value.isEmpty then rest else .lit (String.ofList value) :: rest)
      else none
    | _ => none
  | _ => none

/-- Whether the first fields make a command whose assignment arguments are assignments. -/
def declares (fields : List String) : Bool :=
  let isDecl (s : String) := s = "export" || s = "readonly" || s = "local"
  match fields with
  | n :: rest => isDecl n || (n = "command" && (rest.head?.map isDecl).getD false)
  | [] => false

/-- Expands the words of a command: the fields, the frame, and the status of the last command
substitution. -/
def expandArgs (f : Frame) (words : List Word) : Prog (List String × Frame × Option Nat) := do
  let mut fields : List String := []
  let mut g := f
  let mut last : Option Nat := none
  for w in words do
    match (if declares fields then assignmentWord? w else none) with
    | some (name, value) =>
      let (v, h, s) ← expanding g (expandText (valueTildes value))
      fields := fields ++ [name ++ "=" ++ v]
      g := h
      last := s.orElse fun _ => last
    | none =>
      let (vs, h, s) ← expanding g (expandFields [w])
      fields := fields ++ vs
      g := h
      last := s.orElse fun _ => last
  pure (fields, g, last)

/-- Makes the assignments before a command, in order, each seeing those before it. With
`keep` they stay; otherwise what they replace is kept to be restored after the command, and
they are exported for it. The frame, what to restore, the traced texts and the status of the
last command substitution. An assignment to a read-only variable ends the shell. -/
def assignPrefix (f : Frame) (assigns : List (String × Word)) (keep : Bool) :
    Prog (Frame × List Saved × List String × Option Nat) := do
  let mut g := f
  let mut saved : List Saved := []
  let mut traced : List String := []
  let mut last : Option Nat := none
  for (name, w) in assigns do
    let (v, h, s) ← expanding g (expandText (valueTildes w))
    last := s.orElse fun _ => last
    if !keep then
      saved := .var name (h.get? name) (h.exported.contains name) (h.readonly.contains name) :: saved
    match h.assign name v with
    | .ok h2 => g := if keep then h2 else h2.markExported name
    | .error m => abort h m
    traced := traced ++ [name ++ "=" ++ v]
  pure (g, saved, traced, last)

/-- Writes the trace of a command for `set -x`: `PS4` expanded, then the assignments and the
fields, joined by spaces. -/
def trace (f : Frame) (io : Io) (texts : List String) : Prog Frame := do
  if !f.on "xtrace" then return f
  let (lead, g, _) ← expanding f (expandText (heredocWord ((f.get? "PS4").getD "")))
  Io.put io 2 (lead ++ " ".intercalate texts ++ "\n")
  pure g

/-! ## Builtins -/

/-- Ends a builtin: its complaint, then its output. After a complaint a special builtin ends
the shell, and any other has status 2. -/
def conclude (special : Bool) (d : Done) : Prog Ran := do
  match d.verdict with
  | .ok s =>
    d.frame.put 1 d.out
    finish d.frame s
  | .error m =>
    d.frame.complain m
    d.frame.put 1 d.out
    if special then Prog.leaveShell d.frame 2 else finish d.frame 2

/-- The status of a wait that a handled signal cut short: 128 plus the signal that came last. -/
def interruptedStatus : Prog Nat := do
  let sigs ← Prog.ask .pendingSignals
  pure (128 + sigs.getLastD 0)

/-- Waits for children started in the background; a handled signal that comes ends the wait
with 128 plus its number. -/
def waitBuiltin (f : Frame) (args : List String) : Prog Done := do
  if args.isEmpty then
    let rec waitAll : List Int32 → Prog (Option Nat × List Int32)
      | [] => pure (none, [])
      | pid :: rest => do
        match ← Prog.ask (.waitChild pid) with
        | .error .intr => pure (some (← interruptedStatus), pid :: rest)
        | _ => waitAll rest
    let (cut, left) ← waitAll f.background
    pure (.status { f with background := left } (cut.getD 0))
  else
    let rec waitEach : List String → Nat → Frame → Prog Done
      | [], status, g => pure (.status g status)
      | a :: rest, _, g => do
        match a.toNat? with
        | some n =>
          let pid : Int32 := Int32.ofNat n
          match ← Prog.ask (.waitChild pid) with
          | .error .intr => pure (.status g (← interruptedStatus))
          | r =>
            let status := match r with
              | .ok e => e.status
              | .error _ => 127
            waitEach rest status { g with background := g.background.filter (· ≠ pid) }
        | none => pure (.failed g ("wait: Illegal number: " ++ a))
    waitEach args 0 f

/-- The `trap` builtin. Alone it lists the traps set, the exit first and then by signal
number. Otherwise its first operand is the action, unless it is the only operand or a signal
number, which reset the signals; `-` resets them too, and an empty action ignores them. The
signals after it take the action in turn, until one that names no signal (`bad trap`, status
1). -/
def trapBuiltin (f : Frame) (args : List String) : Prog Done := do
  match takeOptions [] [] args with
  | .error m => pure (.failed f ("trap: " ++ m))
  | .ok (_, operands) =>
    match operands with
    | [] =>
      let listed := f.traps.mergeSort fun a b => decide (a.1 ≤ b.1)
      pure ⟨f, String.join (listed.map fun (n, action) =>
        "trap -- " ++ shellQuote action ++ " " ++ ((Signal.trapName? n).getD (toString n)) ++ "\n"),
        .ok 0⟩
    | first :: rest =>
      let (action, sigs) : Option String × List String :=
        if rest.isEmpty || (Signal.trapNumber? first).isSome then (none, operands)
        else (if first = "-" then none else some first, rest)
      setEach action sigs f
where
  /-- Gives each signal the action in turn. -/
  setEach (action : Option String) : List String → Frame → Prog Done
    | [], g => pure (.status g 0)
    | a :: more, g => do
      match Signal.ofTrapOperand? a with
      | none =>
        g.put 2 ("trap: " ++ a ++ ": bad trap\n")
        pure (.status g 1)
      | some n =>
        let kept := g.traps.filter (·.1 ≠ n)
        let traps := match action with
          | some text => kept ++ [(n, text)]
          | none => kept
        if n ≠ 0 then
          let how : Disposition := match action with
            | none => .byDefault
            | some "" => .ignore
            | some _ => .handle
          Prog.ask (.setSignal n how)
        setEach action more { g with traps := traps }

/-- `umask`: prints the mask, or with `-S` the permissions it leaves. -/
def umaskBuiltin (f : Frame) (args : List String) : Done :=
  match args with
  | [] => ⟨f, "0022\n", .ok 0⟩
  | ["-S"] => ⟨f, "u=rwx,g=rx,o=rx\n", .ok 0⟩
  | _ => .status f 0

/-- Runs a builtin that needs no evaluator. -/
def plainBuiltin (f : Frame) (name : String) (args : List String) : Prog Done := do
  match name with
  | "true" | ":" => pure (.status f 0)
  | "false" => pure (.status f 1)
  | "echo" => pure (Builtin.echo f args)
  | "printf" => Builtin.printf f args
  | "test" => Builtin.test false f args
  | "[" => Builtin.test true f args
  | "kill" => Builtin.kill f args
  | "pwd" => Builtin.pwd f args
  | "cd" | "chdir" => Builtin.cd f args
  | "wait" => waitBuiltin f args
  | "read" => readBuiltin f args
  | "getopts" => getoptsBuiltin f args
  | "alias" => aliasBuiltin f args
  | "unalias" => unaliasBuiltin f args
  | "type" => typeBuiltin f args
  | "hash" => hashBuiltin f args
  | "umask" => pure (umaskBuiltin f args)
  | "ulimit" => pure ⟨f, if args.isEmpty then "unlimited\n" else "", .ok 0⟩
  | "jobs" => pure (.status f 0)
  | "fg" | "bg" => pure (.failed f (name ++ ": No current job"))
  | "export" => pure (declare false f args)
  | "readonly" => pure (declare true f args)
  | "local" => pure (makeLocal f args)
  | "unset" => pure (unsetNames f args)
  | "set" => pure (setBuiltin f args)
  | "shift" => pure (shiftParams f args)
  | "trap" => trapBuiltin f args
  | "times" => pure ⟨f, "0m0.000000s 0m0.000000s\n0m0.000000s 0m0.000000s\n", .ok 0⟩
  | _ => pure (.status f 0)

/-- Reads the count of `break`, `continue` or `return`. -/
def countOf (name : String) (args : List String) (default : Nat) : Except String Nat :=
  match args with
  | [] => .ok default
  | a :: _ =>
    match shellNumber? a with
    | some n => .ok n
    | none => .error (name ++ ": Illegal number: " ++ a)

/-- What `command` was asked: `-p` (the standard search path), `-v` or `-V`, and the name
and arguments; an option it does not know is a complaint. -/
def commandOptions (args : List String) :
    Except String (Bool × Option Bool × List String) :=
  match takeOptions ['p', 'v', 'V'] [] args with
  | .error m => .error ("command: " ++ m)
  | .ok (opts, rest) =>
    let std := opts.any (·.1 = 'p')
    let verify : Option Bool :=
      if opts.any (·.1 = 'V') then some true
      else if opts.any (·.1 = 'v') then some false
      else none
    .ok (std, verify, rest)

/-- Runs a name that was looked up: `special` says whether a special builtin's complaints end
the shell (not when `command` runs it). `fuel` bounds the `command` words in front. -/
def invoke (runner : Runner) (mode : Mode) : Nat → Bool → Frame → String → List String →
    Target → Prog Ran
  | 0, _, f, _, _, _ => finish f 0
  | fuel + 1, special, f, name, args, target => do
    match target with
    | .missing =>
      f.report (name ++ ": not found")
      finish f 127
    | .file path => external (mode.tail && !f.hasTraps) f name path args
    | .function body => callFunction (fun g => runner body Mode.inner g) f args
    | .builtin =>
      if name = "command" then
        -- `command [-p] name args` runs the name without looking at functions, a special
        -- builtin as a plain one; `-v` and `-V` describe the name instead
        match commandOptions args with
        | .error m => conclude false (.failed f m)
        | .ok (std, verify, rest) =>
          match verify, rest with
          | some verbose, n :: _ =>
            let (g, text, s) ← describe f n verbose (if std then some defaultPath else none)
            conclude false ⟨g, text, .ok s⟩
          | some _, [] => finish f 0
          | none, [] => finish f 0
          | none, cmd :: more => do
            let (g, target) ← if std && !cmd.toList.contains '/' then do
                let (g, t) ← findCommand { f with hashed := [] } cmd false
                match t with
                | .file _ =>
                  match ← searchFile defaultPath cmd with
                  | some p => pure ({ g with hashed := f.hashed }, Target.file p)
                  | none => pure ({ g with hashed := f.hashed }, Target.missing)
                | t => pure ({ g with hashed := f.hashed }, t)
              else findCommand f cmd false
            invoke runner mode fuel false g cmd more target
      else conclude false (← plainBuiltin f name args)
    | .special =>
      match name with
      | "exit" =>
        match countOf "exit" args 0 with
        | .ok n => Prog.leaveShell f (if args.isEmpty then f.exitStatus.getD f.status else n)
        | .error m => conclude special (.failed f m)
      | "return" =>
        match countOf "return" args f.status with
        | .ok n => pure ({ f with status := n }, .leave)
        | .error m => conclude special (.failed f m)
      | "break" | "continue" =>
        match countOf name args 1 with
        | .ok 0 => conclude special (.failed f (name ++ ": Illegal number: 0"))
        | .ok n =>
          let n := min n f.loops
          if n = 0 then finish f 0
          else pure ({ f with status := 0 }, if name = "break" then .breakLoop n else .continueLoop n)
        | .error m => conclude special (.failed f m)
      | "eval" =>
        if args.isEmpty then finish f 0
        else
          runTextAs runner { mode with tail := false } (some "eval") (" ".intercalate args)
            { f with status := 0 }
      | "." =>
        match takeOptions [] [] args with
        | .error m => conclude special (.failed f (".: " ++ m))
        | .ok (_, []) => finish f 0
        | .ok (_, file :: _) => do
          let path ← if file.toList.contains '/' then pure (some file)
            else searchFile f.searchPath file
          match path with
          | none => conclude special (.failed f (".: " ++ file ++ ": not found"))
          | some p =>
            match ← Prog.readPath (Text.decodeBytes p) with
            | .error e =>
              let why := if e = .noent then "No such file" else e.description
              conclude special (.failed f (".: cannot open " ++ file ++ ": " ++ why))
            | .ok data =>
              let (g, flow) ← runTextAs runner Mode.inner (some p) (Text.ofBytes data)
                { f with status := 0 }
              pure (g, if flow = .leave then .normal else flow)
      | "exec" =>
        match args with
        | [] => finish f 0
        | "--" :: [] => finish f 0
        | "--" :: cmd :: rest => execBuiltin f cmd rest
        | cmd :: rest => execBuiltin f cmd rest
      | _ => conclude special (← plainBuiltin f name args)

/-! ## Commands -/

/-- Whether a name is a special builtin, whose assignments stay and whose complaints end the
shell. -/
def Target.isSpecial : Target → Bool
  | .special => true
  | _ => false

/-- Runs a simple command. -/
def simpleCommand (runner : Runner) (line : Nat) (assigns : List (String × Word))
    (words : List Word) (redirs : List Redir) (mode : Mode) (f : Frame) : Prog Ran := do
  let f := { f with line := line }
  let (fields, f, subst) ← expandArgs f words
  match fields with
  | [] =>
    match ← redirectAll f redirs with
    | .error m =>
      f.report m
      finish f 2
    | .ok (g, opened) =>
      closeAll opened
      let g := { g with io := f.io }
      let (g, _, traced, last) ← assignPrefix g assigns true
      let g ← trace g f.io traced
      finish g ((last.orElse fun _ => subst).getD 0)
  | name :: args =>
    let (f, target) ← findCommand f name true
    let special := target.isSpecial
    match ← redirectAll f redirs with
    | .error m =>
      f.report m
      if special then Prog.leaveShell f 2 else finish f 2
    | .ok (g, opened) =>
      let (h, saved, traced, _) ← assignPrefix g assigns special
      let h ← trace h f.io (traced ++ fields)
      let (r, flow) ← invoke runner mode (args.length + 1) special h name args target
      let keepIo := name = "exec" && args.isEmpty
      if !keepIo then closeAll opened
      let r := if special then r else restoreLocals r saved
      pure ({ r with io := if keepIo then r.io else f.io }, flow)

/-- Starts a command in a child whose frame is a copy of this one, ignoring the given
signals. -/
def spawnSubshell (f : Frame) (body : Cmd) (io : Io) (ignoring : List Nat) :
    Prog (Except Errno Int32) :=
  Prog.ask (.spawn (.subshell body (f.forChild (io.map (·.1))) ignoring) io)

/-- Looks up the name of a simple command whose first word is a plain name, before it runs
in a child, so that the shell remembers where it was found. -/
def prehash (f : Frame) (c : Cmd) : Prog Frame := do
  match c with
  | .simple _ _ ([.lit name] :: _) _ =>
    if isName name then
      let (g, _) ← findCommand f name true
      pure g
    else pure f
  | _ => pure f

/-- Starts the commands of a pipeline, each reading the output of the one before. -/
def spawnStages (f : Frame) : List Cmd → Option Nat → Prog (Frame × List (Option Int32))
  | [], prev => do
    closeAll prev.toList
    pure (f, [])
  | c :: rest, prev => do
    let f ← prehash f c
    let pipe ← if rest.isEmpty then pure none else do
      match ← Prog.ask .pipe with
      | .ok p => pure (some p)
      | .error _ => pure none
    let io := match prev with
      | some r => Io.set f.io 0 r
      | none => f.io
    let io := match pipe with
      | some (_, w) => Io.set io 1 w
      | none => io
    let spawned ← spawnSubshell f c io []
    closeAll prev.toList
    closeAll (pipe.map (·.2)).toList
    let (f, pids) ← spawnStages f rest (pipe.map (·.1))
    pure (f, spawned.toOption :: pids)

/-- Waits for the children of a pipeline: the status of the last. -/
def awaitAll (f : Frame) : List (Option Int32) → Prog Nat
  | [] => pure 0
  | [p] => do
    match p with
    | some pid =>
      let (g, _) ← awaitChild f pid
      pure g.status
    | none => pure 2
  | p :: ps => do
    match p with
    | some pid => let _ ← Prog.awaitEnd pid Prog.interruptFuel
    | none => pure ()
    awaitAll f ps

/-- Applies `set -e`: a failing command whose status is not tested ends the shell. -/
def checkErrexit (mode : Mode) (r : Ran) : Prog Ran :=
  if r.1.errexit && !mode.tested && r.1.status ≠ 0 && r.2 = .normal then
    Prog.leaveShell r.1 r.1.status
  else pure r

/-- Runs the traps of the handled signals that came, lowest number first. `$?` is kept, and
`exit` without a number in a trap ends the shell with the status from before the traps. A
trap that breaks, continues or returns does so for the command, and the traps after it do
not run. -/
def runTraps (runner : Runner) (r : Ran) : Prog Ran := do
  let (f, flow) := r
  if !f.handlesSignals then return r
  let sigs ← Prog.ask .takeSignals
  if sigs.isEmpty then return r
  let saved := f.exitStatus.getD f.status
  let rec each : List Nat → Frame → Prog Ran
    | [], g => pure ({ g with exitStatus := f.exitStatus }, flow)
    | s :: rest, g =>
      match g.traps.lookup s with
      | some action =>
        if action.isEmpty then each rest g
        else do
          let (h, fl) ← runTextAs runner Mode.inner none action { g with exitStatus := some saved }
          if fl = .normal then each rest { h with status := saved }
          else
            let status := if fl = .leave then h.status else saved
            pure ({ h with exitStatus := f.exitStatus, status := status }, fl)
      | none => each rest g
  each (sigs.mergeSort fun a b => decide (a ≤ b)) f

/-- What follows a command: the traps of the handled signals that came, then, for a command
whose failure counts, `set -e`. -/
def settle (runner : Runner) (mode : Mode) (errexit : Bool) (r : Ran) : Prog Ran := do
  let r ← runTraps runner r
  if errexit then checkErrexit mode r else pure r

/-- The most rounds a loop may take. -/
def loopBound : Nat := 100000000

/-- Runs a command; `depth` bounds the nesting. After each command the traps of the handled
signals that came run. -/
def run : Nat → Cmd → Mode → Frame → Prog Ran
  | 0, _, _, f => fatal f "commands nested too deeply"
  | depth + 1, c, mode, f =>
    let after (errexit : Bool) (m : Mode) (r : Ran) : Prog Ran := settle (run depth) m errexit r
    match c with
    | .empty => do after false mode (← finish f 0)
    | .simple line assigns words redirs => do
      let r ← simpleCommand (run depth) line assigns words redirs mode f
      after true mode r
    | .pipeline bang stages => do
      match stages with
      | [one] => do
        let (g, flow) ← run depth one { mode with tested := mode.tested || bang } f
        let s := if bang then (if g.status = 0 then 1 else 0) else g.status
        after false mode ({ g with status := s }, flow)
      | _ => do
        let (f, pids) ← spawnStages f stages none
        let s ← awaitAll f pids
        let s := if bang then (if s = 0 then 1 else 0) else s
        let r ← finish f s
        after true { mode with tested := mode.tested || bang } r
    | .andThen a b => do
      let (f, flow) ← run depth a Mode.condition f
      if flow ≠ .normal || f.status ≠ 0 then after false mode (f, flow)
      else after false mode (← run depth b mode f)
    | .orElse a b => do
      let (f, flow) ← run depth a Mode.condition f
      if flow ≠ .normal || f.status = 0 then after false mode (f, flow)
      else after false mode (← run depth b mode f)
    | .seq a b => do
      let (f, flow) ← run depth a { mode with tail := false } f
      if flow ≠ .normal then after false mode (f, flow)
      else after false mode (← run depth b mode f)
    | .background body => do
      let null ← Prog.ask (.openFile "/dev/null" .read)
      let io := match null with
        | .ok k => Io.set f.io 0 k
        | .error _ => f.io
      -- a command started in the background of a script ignores INT and QUIT
      let spawned ← spawnSubshell f body io [2, 3]
      closeAll null.toOption.toList
      match spawned with
      | .ok pid =>
        after false mode
          (← finish { f with lastBackground := some pid, background := f.background ++ [pid] } 0)
      | .error e =>
        f.complain ("cannot fork: " ++ e.description)
        after false mode (← finish f 2)
    | .group body redirs => do
      after false mode (← withRedirs f redirs fun g => run depth body mode g)
    | .subshell body redirs => do
      let r ← withRedirs f redirs fun g => do
        if mode.tail && !g.hasTraps then run depth body mode g
        else
          match ← spawnSubshell g body g.io [] with
          | .ok pid => awaitChild g pid
          | .error e =>
            g.complain ("cannot fork: " ++ e.description)
            finish g 2
      after true mode r
    | .ifThen cond body other redirs => do
      let r ← withRedirs f redirs fun g => do
        let (g, flow) ← run depth cond Mode.condition g
        if flow ≠ .normal then pure (g, flow)
        else if g.status = 0 then run depth body mode g
        else
          match other with
          | some e => run depth e mode g
          | none => finish g 0
      after false mode r
    | .loop isUntil cond body redirs => do
      let r ← withRedirs f redirs fun g => inLoop g fun g =>
        whileLoop isUntil (fun h => run depth cond Mode.condition h)
          (fun h => run depth body { mode with tail := false } h) loopBound 0 g
      after false mode r
    | .forEach var items body redirs => do
      let r ← withRedirs f redirs fun g => do
        let (values, g) ← match items with
          | none => pure (g.params, g)
          | some ws => do
            let (vs, g, _) ← expanding g (expandFields ws)
            pure (vs, g)
        inLoop g fun g => forLoop var (fun h => run depth body { mode with tail := false } h) values 0 g
      after false mode r
    | .caseOf subject arms redirs => do
      let r ← withRedirs f redirs fun g => do
        let (text, g, _) ← expanding g (expandText subject)
        let (arm, g) ← caseArm text arms g
        match arm with
        | some body => run depth body mode g
        | none => finish g 0
      after false mode r
    | .function name body =>
      finish { f with functions := (name, body) :: f.functions.filter (·.1 ≠ name),
                      hashed := f.hashed.filter (·.1 ≠ name) } 0

/-- How deep commands may nest. -/
def nesting : Nat := 10000

/-- Runs the commands of a script text one at a time: each is read only after the one before
has run, so a syntax error ends the shell after what came before it. With `set -n` commands
are read and not run. With `lastInPlace`, the last command may replace the shell. -/
def runScript (lastInPlace : Bool) : Nat → Src → Frame → Prog Nat
  | 0, _, f => Prog.leaveShell f f.status
  | bound + 1, src, f =>
    match { src with aliases := f.aliases }.command with
    | .error e => abort { f with line := e.line } e.message
    | .ok none => Prog.leaveShell f f.status
    | .ok (some (c, line, rest)) => do
      if f.on "noexec" then runScript lastInPlace bound rest f
      else
        let isLast := match rest.command with
          | .ok none => true
          | _ => false
        let (f, flow) ← run nesting c ⟨lastInPlace && isLast, false⟩ { f with line := line }
        match flow with
        | .leave => Prog.leaveShell f f.status
        | _ => runScript lastInPlace bound rest f

/-- What a child started for a subshell runs: it ignores the given signals, then runs the
command, with nothing after it. -/
def subshellMain (body : Cmd) (f : Frame) (ignoring : List Nat) : Prog Nat := do
  for sig in ignoring do
    Prog.ask (.setSignal sig .ignore)
  let (g, _) ← run nesting body ⟨true, false⟩ f
  Prog.leaveShell g g.status

/-- The last steps of a shell that ends with a status: its exit trap, if one runs commands,
runs once with `$?` the status, and the shell exits with the status unless the trap exits
first. -/
def leaveWith (f : Frame) (code : Nat) : Prog Nat := do
  match f.traps.lookup 0 with
  | some action =>
    if !action.isEmpty then
      let g := { f with traps := f.traps.filter (·.1 ≠ 0), status := code, exitStatus := some code }
      let _ ← runTextAs (run nesting) Mode.inner none action g
  | none => pure ()
  Prog.exit code

end JobControl.Host.Script
