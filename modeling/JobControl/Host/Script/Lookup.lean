import JobControl.Host.Script.Variables

/-!
# Shell scripts: what a command name runs

* `findCommand` looks a name up as the shell does before running it: a name with `/` is a
  file as it stands; then the special builtins, the functions, the other builtins, the files
  the shell remembers, and last the first regular file of that name in the directories of
  `PATH`, which the shell then remembers (`hash` lists them).
* `describe` is `type` and `command -v`/`-V`: a keyword, an alias, a builtin, a function, a
  remembered file (a "tracked alias") or a file found now.
* `hashBuiltin` lists, forgets (`-r`) or looks up the remembered files.

Names and paths are the shell's byte text; the file system sees their UTF-8 reading.
-/

namespace JobControl.Host.Script

open Sys

/-- What a command name runs. -/
inductive Target
  | special
  | function (body : Cmd)
  | builtin
  /-- A file, by the path that runs it. -/
  | file (path : String)
  | missing
  deriving Repr

/-- The search path when `PATH` is unset. -/
def defaultPath : String :=
  "/usr/local/sbin:/usr/local/bin:/usr/sbin:/usr/bin:/sbin:/bin"

/-- The directories of a search path; an empty entry is the working directory. -/
def pathDirs (path : String) : List String :=
  path.splitOn ":"

/-- A name in one directory of the search path. -/
def inDir (dir name : String) : String :=
  if dir.isEmpty then name else dir ++ "/" ++ name

/-- The first path of the search path where the name is a regular file. -/
def searchFile (path name : String) : Prog (Option String) := do
  for dir in pathDirs path do
    let p := inDir dir name
    match ← Prog.ask (.stat (Text.decodeBytes p) true) with
    | .ok info => if info.kind = .regular then return some p
    | .error _ => pure ()
  return none

/-- The search path of the frame. -/
def Frame.searchPath (f : Frame) : String :=
  (f.get? "PATH").getD defaultPath

/-- Remembers where a file was found. -/
def Frame.remember (f : Frame) (name path : String) : Frame :=
  { f with hashed := f.hashed.filter (·.1 ≠ name) ++ [(name, path)] }

/-- Looks a name up as the shell does before running it; `functions` says whether functions
count. A file found in `PATH` is remembered. -/
def findCommand (f : Frame) (name : String) (functions : Bool) : Prog (Frame × Target) := do
  if name.toList.contains '/' then return (f, .file name)
  if specialBuiltins.contains name then return (f, .special)
  if functions then
    if let some body := f.functions.lookup name then return (f, .function body)
  if regularBuiltins.contains name then return (f, .builtin)
  if let some p := f.hashed.lookup name then return (f, .file p)
  match ← searchFile f.searchPath name with
  | some p => pure (f.remember name p, .file p)
  | none => pure (f, .missing)

/-- What `type` and `command -V` print for a name (`verbose`), or `command -v`; `path` is
the search path of `command -p`, which neither uses nor adds to the remembered files. The
frame, the text, and the status: 127 when nothing is found. -/
def describe (f : Frame) (name : String) (verbose : Bool) (path : Option String) :
    Prog (Frame × String × Nat) := do
  let lead := if verbose then name else ""
  if keywords.contains name then
    return (f, lead ++ (if verbose then " is a shell keyword" else name) ++ "\n", 0)
  if let some v := f.aliases.lookup name then
    if verbose then return (f, lead ++ " is an alias for " ++ v ++ "\n", 0)
    else return (f, "alias " ++ aliasLine name v, 0)
  let tracked := if path.isNone then f.hashed.lookup name else none
  let found ← if name.toList.contains '/' then do
      match ← Prog.ask (.stat (Text.decodeBytes name) true) with
      | .ok _ => pure (f, Target.file name)
      | .error _ => pure (f, Target.missing)
    else if specialBuiltins.contains name then pure (f, Target.special)
    else if let some body := f.functions.lookup name then pure (f, Target.function body)
    else if regularBuiltins.contains name then pure (f, Target.builtin)
    else if tracked.isSome then pure (f, Target.missing)
    else
      match path with
      | some p => do
        match ← searchFile p name with
        | some q => pure (f, Target.file q)
        | none => pure (f, Target.missing)
      | none => findCommand f name true
  match tracked, found.2 with
  | some p, .missing =>
    return (f, (if verbose then lead ++ " is a tracked alias for " ++ p else p) ++ "\n", 0)
  | _, _ =>
    let (g, target) := found
    let line := match target with
      | .file p => if verbose then some (lead ++ " is " ++ p) else some p
      | .function _ => some (if verbose then lead ++ " is a shell function" else name)
      | .special => some (if verbose then lead ++ " is a special shell builtin" else name)
      | .builtin => some (if verbose then lead ++ " is a shell builtin" else name)
      | .missing => none
    match line with
    | some l => return (g, l ++ "\n", 0)
    | none => return (g, if verbose then lead ++ ": not found\n" else "", 127)

/-- `type name...`: describes each name; status 127 when one is not found. -/
def typeBuiltin (f : Frame) (args : List String) : Prog Done := do
  let mut g := f
  let mut out := ""
  let mut status := 0
  for a in args do
    let (h, text, s) ← describe g a true none
    g := h
    out := out ++ text
    status := status ||| s
  pure ⟨g, out, .ok status⟩

/-- The order in which the shell lists the remembered files: by their bucket in its table of
commands, each bucket in the order of finding. -/
def hashBucket (name : String) : Nat :=
  let bytes := name.toList.map Char.toNat
  (((bytes.headD 0) * 16 + bytes.foldl (· + ·) 0) % 32768) % 31

/-- `hash`: alone it lists the remembered files; `-r` forgets them; names are looked up
afresh (a name found nowhere is a complaint, status 1). -/
def hashBuiltin (f : Frame) (args : List String) : Prog Done := do
  match takeOptions ['r'] [] args with
  | .error m => pure (.failed f ("hash: " ++ m))
  | .ok (opts, names) =>
    if !opts.isEmpty then pure (.status { f with hashed := [] } 0)
    else if names.isEmpty then
      let listed := f.hashed.mergeSort fun a b => decide (hashBucket a.1 ≤ hashBucket b.1)
      pure ⟨f, String.join (listed.map fun (_, p) => p ++ "\n"), .ok 0⟩
    else
      let mut g := f
      let mut status := 0
      for n in names do
        g := { g with hashed := g.hashed.filter (·.1 ≠ n) }
        let (h, target) ← findCommand g n true
        g := h
        match target with
        | .missing =>
          g.complain ("hash: " ++ n ++ ": not found")
          status := 1
        | _ => pure ()
      pure (.status g status)

end JobControl.Host.Script
