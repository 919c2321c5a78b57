import JobControl.Host.Script.Run

/-!
# Shell scripts: the shell program

`sh [options] [-c text [name [argument...]]]`, `sh [options] file [argument...]`, or `sh`
with options alone, which reads its commands from its input.

The options are those of `set`, by letter (`-e`, `+x`, ...) or by name (`-o errexit`); an
unknown one is a complaint and status 2. The shell starts with the variables of its
environment, `PWD`, `PPID` and the defaults of `IFS`, `OPTIND`, `PS1`, `PS2`, `PS4` and
`PATH`; `$0` is the name given after `-c` text, or the script's path, or the shell's own name.
A script that cannot be read is a complaint and status 2. Commands given with `-c` may end by
replacing the shell with their last command.

Arguments and the environment arrive as Unicode text and become the shell's byte text here.
-/

namespace JobControl.Host.Script

open Sys

/-- The options before the operands: whether `-c` was given, the options turned on and off
(in order, `true` for on), and the operands; or the text of an unknown option. -/
def shellOptions : List String → Bool → List (String × Bool) →
    Except String (Bool × List (String × Bool) × List String)
  | [], c, acc => .ok (c, acc, [])
  | "--" :: rest, c, acc => .ok (c, acc, rest)
  | "-" :: rest, c, acc => .ok (c, acc, rest)
  | a :: rest, c, acc =>
    if a.startsWith "-" || a.startsWith "+" then
      let on := a.startsWith "-"
      let letters := (a.drop 1).toString.toList
      if letters = ['o'] then
        match rest with
        | name :: more =>
          if optionTable.any (·.1 = name) then shellOptions more c (acc ++ [(name, on)])
          else .error ("-o " ++ name)
        | [] => .ok (c, acc, [])
      else
        let rec byLetter : List Char → Bool → List (String × Bool) →
            Except String (Bool × List (String × Bool))
          | [], c, acc => .ok (c, acc)
          | 'c' :: more, c, acc => byLetter more (c || on) acc
          | l :: more, c, acc =>
            match optionTable.find? (·.2 = some l) with
            | some (name, _) => byLetter more c (acc ++ [(name, on)])
            | none => .error (String.singleton l)
        match byLetter letters c acc with
        | .ok (c, acc) => shellOptions rest c acc
        | .error l => .error l
    else .ok (c, acc, a :: rest)

/-- The variables a shell starts with: the defaults, then its environment, then `PPID` and
the working directory as `PWD`. -/
def startVars (env : List (String × String)) (ppid : Int32) (cwd : Option String) :
    List (String × String) :=
  let defaults := [("IFS", " \t\n"), ("OPTIND", "1"), ("PS1", "$ "), ("PS2", "> "),
    ("PS4", "+ "), ("PATH", "/usr/local/sbin:/usr/local/bin:/usr/sbin:/usr/bin:/sbin:/bin")]
  let env := env.map fun (n, v) => (Text.encodeBytes n, Text.encodeBytes v)
  let vars := env ++ defaults.filter fun (n, _) => !(env.any (·.1 = n)) || n = "OPTIND"
  let vars := vars.filter (·.1 ≠ "PPID") ++ [("PPID", toString ppid.toInt)]
  match cwd with
  | some d => vars.filter (·.1 ≠ "PWD") ++ [("PWD", Text.encodeBytes d)]
  | none => vars

/-- Writes a complaint of the shell before any script runs. -/
def complainEarly (name msg : String) : Prog Unit :=
  Prog.put 2 (Text.toBytes (name ++ ": 0: " ++ msg ++ "\n"))

/-- The shell program, given its arguments (the first is its name). -/
def start (argv : List String) : Prog Nat := do
  let argv := argv.map Text.encodeBytes
  let (pid, ppid) ← Prog.ask .self
  let env ← Prog.ask .environment
  let cwd ← Prog.ask .currentDir
  let vars := startVars env ppid cwd.toOption
  let name := argv.headD "sh"
  match shellOptions (argv.drop 1) false [] with
  | .error o =>
    complainEarly name ("Illegal option -" ++ o)
    pure 2
  | .ok (cflag, settings, operands) =>
    let options := settings.foldl (fun acc (n, on) =>
      if on then (if acc.contains n then acc else acc ++ [n]) else acc.filter (· ≠ n)) []
    let exported := env.map fun (n, _) => Text.encodeBytes n
    let frame (arg0 : String) (params : List String) (more : List String) : Frame :=
      { Frame.fresh vars arg0 params pid with options := options ++ more, exported := exported }
    if cflag then
      match operands with
      | [] =>
        complainEarly name "-c requires an argument"
        pure 2
      | text :: more =>
        let (arg0, params) := match more with
          | [] => (name, [])
          | a :: ps => (a, ps)
        runScript true (text.length + 1) (Src.ofText text []) (frame arg0 params [])
    else if operands.isEmpty || options.contains "stdin" then
      match ← Prog.readAll 0 with
      | .ok data =>
        let text := Text.ofBytes data
        let more := if options.contains "stdin" then [] else ["stdin"]
        runScript false (text.length + 1) (Src.ofText text []) (frame name operands more)
      | .error _ => pure 0
    else
      match operands with
      | [] => pure 0
      | file :: params =>
        match ← Prog.readPath (Text.decodeBytes file) with
        | .ok data =>
          let text := Text.ofBytes data
          runScript false (text.length + 1) (Src.ofText text []) (frame file params [])
        | .error e =>
          let why := if e = .noent then "No such file" else e.description
          complainEarly name ("cannot open " ++ file ++ ": " ++ why)
          pure 2

end JobControl.Host.Script
