/-!
# Shell scripts: syntax

The command language of the system's `sh`, as far as scripts and command strings use it:
words made of literal, quoted and expanded parts; simple commands with assignments and
redirections; pipelines, `&&`, `||`, `;` and `&` lists; braces, parentheses, `if`, `while`,
`until`, `for`, `case` and function definitions.

A command substitution `$(...)`, an arithmetic expansion `$((...))` and the word of a
`${name-word}` form keep their source text and are read when they are expanded, so that words
and commands need not be defined together.

`Frame` is what a running script knows: variables, positional parameters, the last status, the
shell's pid and functions; a subshell starts with a copy of it.
-/

namespace JobControl.Host.Script

/-- The operator of a `${name...}` expansion. -/
inductive ParamOp
  | plain
  | length
  /-- `-`: a default; with `colon`, also for an empty value. -/
  | useDefault (colon : Bool) (word : String)
  /-- `=`: a default that is also assigned. -/
  | assignDefault (colon : Bool) (word : String)
  /-- `?`: an error when unset. -/
  | errorIfUnset (colon : Bool) (word : String)
  /-- `+`: the word when set. -/
  | alternative (colon : Bool) (word : String)
  /-- `#`, `##`: the value without its shortest or longest prefix matching the pattern. -/
  | dropPrefix (longest : Bool) (pattern : String)
  /-- `%`, `%%`: the value without its shortest or longest suffix matching the pattern. -/
  | dropSuffix (longest : Bool) (pattern : String)
  /-- A form the shell cannot expand, which is an error when it is expanded. -/
  | invalid
  deriving Repr

/-- A piece of a word. `quoted` pieces are not split into fields nor used as patterns. -/
inductive Part
  | lit (text : String)
  | quoted (text : String)
  | param (name : String) (op : ParamOp) (quoted : Bool)
  | command (source : String) (quoted : Bool)
  | arith (source : String) (quoted : Bool)
  | tilde (user : String)
  deriving Repr

/-- A word: its pieces in order. -/
abbrev Word := List Part

/-- A redirection of a descriptor. -/
inductive Redir
  | read (fd : Nat) (target : Word)
  | write (fd : Nat) (target : Word) (append : Bool)
  /-- `>|`: writes even when `set -C` forbids overwriting a file. -/
  | clobber (fd : Nat) (target : Word)
  | readWrite (fd : Nat) (target : Word)
  | dupInput (fd : Nat) (target : Word)
  | dupOutput (fd : Nat) (target : Word)
  | here (fd : Nat) (body : Word)
  deriving Repr

/-- A command. -/
inductive Cmd
  | empty
  /-- A simple command, with the line it starts on. -/
  | simple (line : Nat) (assigns : List (String × Word)) (words : List Word) (redirs : List Redir)
  | pipeline (bang : Bool) (stages : List Cmd)
  | andThen (first second : Cmd)
  | orElse (first second : Cmd)
  | seq (first second : Cmd)
  | background (body : Cmd)
  | group (body : Cmd) (redirs : List Redir)
  | subshell (body : Cmd) (redirs : List Redir)
  | ifThen (cond body : Cmd) (otherwise : Option Cmd) (redirs : List Redir)
  | loop (isUntil : Bool) (cond body : Cmd) (redirs : List Redir)
  | forEach (var : String) (items : Option (List Word)) (body : Cmd) (redirs : List Redir)
  | caseOf (subject : Word) (arms : List (List Word × Cmd)) (redirs : List Redir)
  | function (name : String) (body : Cmd)
  deriving Repr

/-- The special builtins, which come before functions and whose errors end the shell. -/
def specialBuiltins : List String :=
  [".", ":", "break", "continue", "eval", "exec", "exit", "export", "local", "readonly",
    "return", "set", "shift", "times", "trap", "unset"]

/-- The other builtins. -/
def regularBuiltins : List String :=
  ["alias", "bg", "cd", "chdir", "command", "echo", "false", "fg", "getopts", "hash", "jobs",
    "kill", "printf", "pwd", "read", "test", "[", "true", "type", "ulimit", "umask", "unalias",
    "wait"]

/-- The reserved words. -/
def keywords : List String :=
  ["!", "case", "do", "done", "elif", "else", "esac", "fi", "for", "if", "in", "then", "until",
    "while", "\x7b", "\x7d"]

/-- What `local` keeps to be restored when the function returns: a variable with its value
(`none` when unset) and whether it was exported and read-only, or the options. -/
inductive Saved
  | var (name : String) (value : Option String) (exported readonly : Bool)
  | options (on : List String)
  deriving Repr

/-- What a running script knows. -/
structure Frame where
  vars : List (String × String)
  params : List String
  arg0 : String
  status : Nat
  shellPid : Int32
  lastBackground : Option Int32
  functions : List (String × Cmd)
  /-- The options that `set` turned on, by their long names. -/
  options : List String
  /-- For each descriptor the script uses, the descriptor of its process behind it. -/
  io : List (Nat × Nat)
  /-- Children started in the background and not yet waited for. -/
  background : List Int32
  /-- The line of the command being run, for complaints. -/
  line : Nat
  /-- The variables passed to the programs the script runs. -/
  exported : List String
  /-- The variables that cannot be changed or unset. -/
  readonly : List String
  /-- For each function running, innermost first, what its `local` keeps, newest first. -/
  locals : List (List Saved)
  /-- The loops around the command in the function (or script) that runs it. -/
  loops : Nat
  /-- The aliases, by name. -/
  aliases : List (String × String)
  /-- Where `getopts` goes on: the number of the next argument, and the offset of the next
  letter in the argument before it. -/
  optIndex : Nat
  optOffset : Option Nat
  /-- The command text run for each trapped signal, by number, `0` for the shell's exit; an
  empty text ignores the signal. -/
  traps : List (Nat × String)
  /-- While a trap runs, the status that `exit` without a number ends the shell with. -/
  exitStatus : Option Nat
  /-- The command whose text runs (`eval`, `exec` or the path of a sourced file), which the
  shell's own complaints name. -/
  context : Option String
  /-- The files that commands were found as in `PATH`, by name, oldest first. -/
  hashed : List (String × String)

namespace Frame

/-- The value of a variable. -/
def get? (f : Frame) (name : String) : Option String :=
  f.vars.lookup name

/-- Gives a variable a value, in its place among the variables, or last when it is new:
variables keep the order in which they were made. -/
def store (f : Frame) (name value : String) : Frame :=
  if f.vars.any (·.1 = name) then
    { f with vars := f.vars.map fun (n, v) => if n = name then (n, value) else (n, v) }
  else { f with vars := f.vars ++ [(name, value)] }

/-- Sets a variable. `OPTIND` also sets where `getopts` goes on, and `PATH` forgets where
commands were found. -/
def set (f : Frame) (name value : String) : Frame :=
  let f := f.store name value
  if name = "OPTIND" then
    let n := (value.trimAscii.toString.toNat?).getD 1
    { f with optIndex := if n = 0 then 1 else n, optOffset := none }
  else if name = "PATH" then { f with hashed := [] }
  else f

/-- Removes a variable. -/
def unset (f : Frame) (name : String) : Frame :=
  { f with vars := f.vars.filter (·.1 ≠ name), exported := f.exported.filter (· ≠ name) }

/-- Whether an option is on. -/
def on (f : Frame) (name : String) : Bool :=
  f.options.contains name

/-- `set -e`: a failing command ends the script. -/
def errexit (f : Frame) : Bool :=
  f.on "errexit"

end Frame

end JobControl.Host.Script
