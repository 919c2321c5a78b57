import JobControl.Host.Machine
import JobControl.Text.Utf8

/-!
# Executing files

How a path becomes a running program.

* `execve`: the path, links followed, must be a regular file with an execute bit (a directory or
  device gives `acces`). A file that starts with `#!` runs its interpreter with the optional
  argument of that line, then the path, then the remaining arguments; one of the host's own
  executables (the magic bytes `7f 45 4c 46` and a program name) runs that program; anything
  else gives `noexec`.
* `execvp`: a name with `/` is executed as it is; otherwise the entries of `PATH` are tried in
  order (an empty entry meaning the working directory), skipping those where the file is missing
  and remembering a permission failure. A file that cannot be executed as such (`noexec`) is run
  by `/bin/sh` instead.

The process is known by the last component of the path it was started from.
-/

namespace JobControl.Host

open Sys

namespace Exec

/-- The bytes that start an executable of the host. -/
def magic : ByteArray := ⟨#[0x7F, 0x45, 0x4C, 0x46]⟩

/-- The contents of the executable file of a program of the host. -/
def binary (name : String) : ByteArray :=
  magic ++ name.toUTF8

/-- What a file runs as. -/
inductive Image
  | native (name : String)
  | interpreted (interpreter : String) (arg : Option String)
  | unknown

/-- Reads the first line of a `#!` file: the interpreter and an optional argument. -/
def shebang (line : String) : Image :=
  let body := (line.drop 2).toString
  let cs := body.toList.dropWhile (fun c => c = ' ' || c = '\t')
  let interp := cs.takeWhile (fun c => c ≠ ' ' && c ≠ '\t')
  let rest := (cs.dropWhile (fun c => c ≠ ' ' && c ≠ '\t')).dropWhile (fun c => c = ' ' || c = '\t')
  let arg := (rest.reverse.dropWhile (fun c => c = ' ' || c = '\t')).reverse
  if interp.isEmpty then .unknown
  else .interpreted (String.ofList interp) (if arg.isEmpty then none else some (String.ofList arg))

/-- What the bytes of a file run as. -/
def imageOf (data : ByteArray) : Image :=
  if data.extract 0 4 == magic then .native (Text.decodeLossy (data.extract 4 data.size))
  else if data.extract 0 2 == "#!".toUTF8 then
    let firstLine := ((Text.decodeLossy (data.extract 0 256)).splitOn "\n").head?.getD ""
    shebang firstLine
  else .unknown

/-- The last component of a path. -/
def baseName (p : String) : String :=
  ((p.splitOn "/").filter (!·.isEmpty)).getLast?.getD p

/-- Executes a file with arguments; `depth` bounds nested interpreters. -/
def execve (programs : String → List String → Prog Nat) (fs : Files) (cwd path : String)
    (argv : List String) : Nat → Except Errno Loaded
  | 0 => .error .loop
  | depth + 1 =>
    match fs.lookup cwd path true with
    | .error e => .error e
    | .ok (n, _) =>
      match fs.get? n with
      | some ⟨.file data, _, _, _⟩ =>
        if !fs.isExecutableNode n then .error .acces
        else
          match imageOf data with
          | .native name => .ok ⟨programs name argv, baseName path⟩
          | .interpreted interp arg =>
            let argv' := interp :: (arg.toList ++ path :: argv.drop 1)
            (execve programs fs cwd interp argv' depth).map fun l => { l with comm := baseName path }
          | .unknown => .error .noexec
      | _ => .error .acces

/-- How many files one execution may go through: the file, its interpreters, and the program
they end at. -/
def interpreterDepth : Nat := 6

/-- Executes a file, and runs it with `/bin/sh` when it is no executable format. -/
def execScript (programs : String → List String → Prog Nat) (fs : Files) (cwd path : String)
    (argv : List String) : Except Errno Loaded :=
  match execve programs fs cwd path argv interpreterDepth with
  | .error .noexec =>
    (execve programs fs cwd "/bin/sh" ("/bin/sh" :: path :: argv.drop 1) interpreterDepth).map
      fun l => { l with comm := baseName path }
  | r => r

/-- Whether a failure of one `PATH` entry lets the search go on. -/
def skippable : Errno → Bool
  | .noent => true
  | .notdir => true
  | .acces => true
  | _ => false

/-- Tries the entries of `PATH` in order. -/
def search (programs : String → List String → Prog Nat) (fs : Files) (cwd name : String)
    (argv : List String) (sawAccess : Bool) : List String → Except Errno Loaded
  | [] => .error (if sawAccess then .acces else .noent)
  | dir :: dirs =>
    let candidate := if dir.isEmpty then name else dir ++ "/" ++ name
    match execScript programs fs cwd candidate argv with
    | .ok l => .ok l
    | .error e =>
      if skippable e then search programs fs cwd name argv (sawAccess || e = .acces) dirs
      else .error e

/-- Executes a program as `execvp` does. -/
def execvp (programs : String → List String → Prog Nat) (fs : Files) (cwd pathVar name : String)
    (argv : List String) : Except Errno Loaded :=
  if name.isEmpty then .error .noent
  else if name.toList.contains '/' then execScript programs fs cwd name argv
  else if name.utf8ByteSize > Files.nameMax then .error .nameTooLong
  else search programs fs cwd name argv false (pathVar.splitOn ":")

end Exec

end JobControl.Host
