import JobControl.Host.Program
import JobControl.Text.Utf8

/-!
# Shell scripts: what a command runs with

* `Io` maps the descriptors a command sees to descriptors of the process. Redirections change
  the map for one command and leave the process's own descriptors alone; a child gets the
  mapped descriptors under the numbers the command sees.
* `Frame.param?` gives the value of a parameter: a variable, a positional parameter, or one of
  `#`, `?`, `$`, `!`, `-`, `0`; `@` and `*` give the positional parameters joined by spaces.
* `Frame.complain` prints a diagnostic as the shell does: its name, the line and the text.

The shell's text is bytes, held one to a character (`Text.ofBytes`): a variable may hold any
byte string, `${#x}` counts bytes and a pattern's `?` matches one byte. Text is written out as
those bytes.
-/

namespace JobControl.Host.Script

/-- For each descriptor a command sees, the descriptor of the process behind it. -/
abbrev Io := List (Nat × Nat)

namespace Io

/-- The process descriptor behind a descriptor. -/
def get? (io : Io) (fd : Nat) : Option Nat :=
  io.lookup fd

/-- Points a descriptor at a process descriptor. -/
def set (io : Io) (fd real : Nat) : Io :=
  (fd, real) :: io.filter (·.1 ≠ fd)

/-- Closes a descriptor for the command. -/
def close (io : Io) (fd : Nat) : Io :=
  io.filter (·.1 ≠ fd)

/-- Each of the given descriptors standing for itself. -/
def identity (fds : List Nat) : Io :=
  fds.map fun n => (n, n)

/-- Writes text to a descriptor, if it is open. -/
def put (io : Io) (fd : Nat) (s : String) : Prog Unit :=
  match io.get? fd with
  | some r => Prog.put r (Text.toBytes s)
  | none => pure ()

/-- Writes bytes to a descriptor, if it is open. -/
def putBytes (io : Io) (fd : Nat) (d : ByteArray) : Prog Unit :=
  match io.get? fd with
  | some r => Prog.put r d
  | none => pure ()

end Io

/-- Text quoted so that the shell reads it back as itself: each run without `'` stands between
single quotes, and each run of `'` between double quotes. -/
def shellQuote (s : String) : String :=
  go (s.length + 1) s.toList
where
  /-- Quotes the runs of `cs`; `bound` exceeds the runs left. -/
  go : Nat → List Char → String
    | 0, _ => ""
    | bound + 1, cs =>
      let plain := cs.takeWhile (· ≠ '\x27')
      let rest := cs.dropWhile (· ≠ '\x27')
      let quotes := rest.takeWhile (· = '\x27')
      let after := rest.dropWhile (· = '\x27')
      let head := "'" ++ String.ofList plain ++ "'"
      if quotes.isEmpty then head
      else
        head ++ "\"" ++ String.ofList quotes ++ "\"" ++ (if after.isEmpty then "" else go bound after)

/-- The options of the shell in the order `set -o` lists them, with the letter of each. -/
def optionTable : List (String × Option Char) :=
  [("errexit", some 'e'), ("noglob", some 'f'), ("ignoreeof", some 'I'),
    ("interactive", some 'i'), ("monitor", some 'm'), ("noexec", some 'n'), ("stdin", some 's'),
    ("xtrace", some 'x'), ("verbose", some 'v'), ("vi", some 'V'), ("emacs", some 'E'),
    ("noclobber", some 'C'), ("allexport", some 'a'), ("notify", some 'b'),
    ("nounset", some 'u'), ("privileged", some 'p'), ("nolog", none), ("debug", none)]

namespace Frame

/-- A frame for a new shell: its variables, name, parameters and pid. -/
def fresh (vars : List (String × String)) (arg0 : String) (params : List String)
    (pid : Int32) : Frame where
  vars := vars
  params := params
  arg0 := arg0
  status := 0
  shellPid := pid
  lastBackground := none
  functions := []
  options := []
  io := Io.identity [0, 1, 2]
  background := []
  line := 0
  exported := vars.map (·.1)
  readonly := []
  locals := []
  loops := 0
  aliases := []
  optIndex := 1
  optOffset := none
  traps := []
  exitStatus := none
  context := none
  hashed := []

/-- The frame of a copy of the script in a child with descriptors `fds`: it keeps only the
traps that ignore a signal, and has no background children of its own. -/
def forChild (f : Frame) (fds : List Nat) : Frame :=
  { f with io := Io.identity fds, background := [], traps := f.traps.filter (·.2.isEmpty),
           exitStatus := none }

/-- Whether a trap runs commands for a signal or for the exit, which keeps the shell from
giving its process to its last command. -/
def hasTraps (f : Frame) : Bool :=
  f.traps.any fun t => !t.2.isEmpty

/-- Whether a trap runs commands for a signal, so that the shell asks after each command for
the signals that came. -/
def handlesSignals (f : Frame) : Bool :=
  f.traps.any fun t => t.1 ≠ 0 && !t.2.isEmpty

/-- The bucket of a name in a table of the shell: its first byte times sixteen plus the sum
of its bytes, modulo the table's size. The shell lists a table bucket by bucket, each in the
order its entries were made, so this decides the order of the environment it passes on. -/
def nameBucket (size : Nat) (name : String) : Nat :=
  let bytes := name.toList.map Char.toNat
  ((bytes.headD 0) * 16 + bytes.foldl (· + ·) 0) % size

/-- The variables passed to the programs the script runs: those exported that are set, in
the order of the shell's table of variables. -/
def environment (f : Frame) : List (String × String) :=
  (f.vars.filter fun (n, _) => f.exported.contains n).mergeSort fun a b =>
    decide (nameBucket 39 a.1 ≤ nameBucket 39 b.1)

/-- The letters of the options that are on, as `$-` gives them: last of `optionTable` first. -/
def flags (f : Frame) : String :=
  String.ofList (optionTable.reverse.filterMap fun (name, letter) =>
    if f.on name then letter else none)

/-- The value of a parameter, `none` when unset. -/
def param? (f : Frame) (name : String) : Option String :=
  match name with
  | "#" => some (toString f.params.length)
  | "?" => some (toString f.status)
  | "$" => some (toString f.shellPid.toInt)
  | "!" => f.lastBackground.map fun p => toString p.toInt
  | "-" => some f.flags
  | "0" => some f.arg0
  | "@" => some (" ".intercalate f.params)
  | "*" => some (" ".intercalate f.params)
  | _ =>
    match name.toNat? with
    | some n => if n = 0 then some f.arg0 else f.params[n - 1]?
    | none => f.get? name

/-- A diagnostic on the error stream: the shell's name, the line and the text. -/
def complain (f : Frame) (msg : String) : Prog Unit :=
  Io.put f.io 2 (f.arg0 ++ ": " ++ toString f.line ++ ": " ++ msg ++ "\n")

/-- A complaint of the shell about the script itself (a command not found, a syntax or
expansion error, a redirection that fails): inside `eval`, `exec` or a sourced file it names
that command too. -/
def report (f : Frame) (msg : String) : Prog Unit :=
  match f.context with
  | some c => f.complain (c ++ ": " ++ msg)
  | none => f.complain msg

/-- Writes text to one of the script's descriptors. -/
def put (f : Frame) (fd : Nat) (s : String) : Prog Unit :=
  Io.put f.io fd s

end Frame

end JobControl.Host.Script
