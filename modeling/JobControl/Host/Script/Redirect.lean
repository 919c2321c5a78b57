import JobControl.Host.Script.Outcome

/-!
# Shell scripts: redirections

A redirection points one of the descriptors a command sees at a file, a copy of another
descriptor, a closed descriptor, or the text of a here-document. Redirections apply in order;
the first that fails is a complaint (`cannot open`, `cannot create`, `Bad file descriptor`),
the descriptors opened so far are closed, and the command does not run. With `set -C`, `>`
does not overwrite an existing file (or a link to nothing) unless it is not a regular file;
`>|` always does.
-/

namespace JobControl.Host.Script

open Sys

/-- The complaint about a file that cannot be opened for a redirection. -/
def openComplaint (path : String) (creating : Bool) (e : Errno) : String :=
  if creating then
    "cannot create " ++ path ++ ": " ++ (if e = .noent then "Directory nonexistent" else e.description)
  else "cannot open " ++ path ++ ": " ++ (if e = .noent then "No such file" else e.description)

/-- Whether `set -C` keeps `>` from opening a path: the path exists, as a regular file or a
link that leads nowhere. -/
def keptFromOverwrite (path : String) : Prog Bool := do
  match ← Prog.ask (.stat path false) with
  | .error _ => pure false
  | .ok _ =>
    match ← Prog.ask (.stat path true) with
    | .ok info => pure (info.kind = .regular)
    | .error _ => pure true

/-- Opens a file for a redirection of `fd`. -/
def openFor (f : Frame) (fd : Nat) (w : Word) (mode : OpenMode) (creating guarded : Bool) :
    Prog (Except String (Frame × List Nat)) := do
  let (path, f, _) ← expanding f (expandText w)
  let real := Text.decodeBytes path
  if guarded && f.on "noclobber" && (← keptFromOverwrite real) then
    return .error (openComplaint path true .exist)
  match ← Prog.ask (.openFile real mode) with
  | .ok k => pure (.ok ({ f with io := Io.set f.io fd k }, [k]))
  | .error e => pure (.error (openComplaint path creating e))

/-- Applies one redirection: the frame with its new map and the descriptors opened. -/
def redirectOne (f : Frame) (r : Redir) : Prog (Except String (Frame × List Nat)) := do
  match r with
  | .read fd w => openFor f fd w .read false false
  | .write fd w append => openFor f fd w (.write append (!append)) true (!append)
  | .clobber fd w => openFor f fd w (.write false true) true false
  | .readWrite fd w => openFor f fd w .readWrite true false
  | .dupInput fd w | .dupOutput fd w =>
    let (text, f, _) ← expanding f (expandText w)
    if text = "-" then pure (.ok ({ f with io := Io.close f.io fd }, []))
    else
      match text.toNat? with
      | some n =>
        match Io.get? f.io n with
        | some real => pure (.ok ({ f with io := Io.set f.io fd real }, []))
        | none => pure (.error (text ++ ": Bad file descriptor"))
      | none => pure (.error ("Syntax error: Bad fd number"))
  | .here fd body =>
    let (text, f, _) ← expanding f (expandText body)
    let real ← Prog.ask (.openData (Text.toBytes text))
    pure (.ok ({ f with io := Io.set f.io fd real }, [real]))

/-- Applies redirections in order. -/
def redirectAll (f : Frame) : List Redir → Prog (Except String (Frame × List Nat))
  | [] => pure (.ok (f, []))
  | r :: rs => do
    match ← redirectOne f r with
    | .error m => pure (.error m)
    | .ok (f, opened) =>
      match ← redirectAll f rs with
      | .error m =>
        closeAll opened
        pure (.error m)
      | .ok (f, more) => pure (.ok (f, opened ++ more))

/-- Runs a command with redirections, restoring the descriptors afterwards. A failed
redirection is status 2. -/
def withRedirs (f : Frame) (rs : List Redir) (k : Frame → Prog Ran) : Prog Ran := do
  if rs.isEmpty then k f
  else
    match ← redirectAll f rs with
    | .error m =>
      f.report m
      finish f 2
    | .ok (g, opened) =>
      let (h, flow) ← k g
      closeAll opened
      pure ({ h with io := f.io }, flow)

/-- Whether a frame's descriptors are the process's own, unchanged. -/
def Frame.plainIo (f : Frame) : Bool :=
  f.io.all fun (a, b) => a = b

end JobControl.Host.Script
