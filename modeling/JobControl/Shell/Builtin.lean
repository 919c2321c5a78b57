import JobControl.Shell.Reap
import JobControl.Shell.Outcome
import JobControl.Text.Decimal

/-!
# Builtins

Five commands run inside the shell rather than as programs: `cd`, `exit`, `jobs`, `fg` and `bg`.
A line whose first word names one of them runs it with the rest of the first stage's words;
further stages, redirections and `&` are ignored.

* `cd [dir | -]`: changes directory, to the home directory without an argument and to the
  previous directory for `-` (printing it); remembers where it was.
* `exit [code]`: asks the shell to exit with 0, the code, or 2 for a code that is no number.
* `jobs`: collects child changes, drops finished jobs and prints a line per job.
* `fg [job]`: continues a job (by default the highest-numbered) and waits for its live members.
* `bg [job]`: continues a stopped job (by default the highest-numbered stopped one) without
  waiting.

A job argument is `N` or `%N`; one that names no job is quoted in the diagnostic, and a missing
default is called `current`.
-/

namespace JobControl

open Sys

/-- The builtin commands. -/
inductive Builtin
  | cd
  | exit
  | jobs
  | fg
  | bg
  deriving DecidableEq, Repr

namespace Builtin

/-- The name that invokes a builtin. -/
def name : Builtin → String
  | .cd => "cd"
  | .exit => "exit"
  | .jobs => "jobs"
  | .fg => "fg"
  | .bg => "bg"

/-- The builtins in the order they are listed. -/
def all : List Builtin :=
  [.cd, .exit, .jobs, .fg, .bg]

/-- The builtin a word names, if any. -/
def lookup? (word : String) : Option Builtin :=
  all.find? (·.name = word)

/-- The job an argument names, or the default; on failure, the text for the diagnostic. -/
def target (t : Table) (arg : Option String) (fallback : Option Job) : Except String Job :=
  match arg with
  | some a =>
    match JobId.ofString? a with
    | .ok id =>
      match t.findById id with
      | some j => .ok j
      | none => .error a
    | .error _ => .error a
  | none =>
    match fallback with
    | some j => .ok j
    | none => .error "current"

/-! ## `cd` -/

/-- Changes directory; the previous directory is remembered only when the change succeeds. -/
def changeDir (args : List String) (sh : Shell) : Sys (BuiltinOutcome × Shell) := do
  let arg := args.head?
  let target? : Except String String ← match arg with
    | some "-" => pure (match sh.prevDir with
      | some prev => .ok prev
      | none => .error "OLDPWD not set")
    | some path => pure (.ok path)
    | none => do
      let env ← Sys.ask .environment
      pure (match env.home? with
        | some home => .ok home
        | none => .error "HOME not set")
  match target? with
  | .error msg => return (.proceed 1, sh.complain "cd" msg)
  | .ok target =>
    let previous := match ← Sys.ask .currentDir with
      | .ok dir => some dir
      | .error _ => none
    match ← Sys.ask (.changeDir target) with
    | .ok () =>
      let sh := { sh with prevDir := previous }
      let sh := if arg = some "-" then sh.print target else sh
      return (.proceed 0, sh)
    | .error e => return (.proceed 1, sh.complain "cd" (target ++ ": " ++ e.render))

/-! ## `exit` -/

/-- The exit code asked for: none is 0, a 32-bit decimal is itself, anything else 2. -/
def exitCode (args : List String) (sh : Shell) : BuiltinOutcome × Shell :=
  match args.head? with
  | none => (.exit 0, sh)
  | some code =>
    match Text.readInt32? code with
    | some c => (.exit c, sh)
    | none => (.exit 2, sh.complain "exit" (code ++ ": numeric argument required"))

/-! ## `jobs` -/

/-- Collects changes, drops finished jobs and prints the rest in order. -/
def listJobs (sh : Shell) : Sys (BuiltinOutcome × Shell) := do
  let sh ← sh.reap
  let (_, t) := sh.jobs.pruneDone
  let sh := { sh with jobs := t }
  return (.proceed 0, t.infos.foldl Shell.print sh)

/-! ## `fg` -/

/-- Waits for each member in turn and records how it ended; the status is that of the last
member whose wait succeeded. -/
def waitMembers (pgid : Pid) : List Pid → Int32 → Table → List Notice →
    Sys (Int32 × Table × List Notice)
  | [], status, t, ns => pure (status, t, ns)
  | pid :: rest, status, t, ns => do
    let (status, event) ← match ← Sys.ask (.waitFor pid) with
      | .ok result =>
        pure (result.status, if result.isStopped then Member.Event.stopped else .exited)
      | .error _ => pure (status, .exited)
    let (n, t) := t.mark pgid pid event
    waitMembers pgid rest status t (ns ++ n.toList)

/-- Continues a job and waits for the members that were live. -/
def foreground (args : List String) (sh : Shell) : Sys (BuiltinOutcome × Shell) := do
  let sh ← sh.reap
  match target sh.jobs args.head? sh.jobs.current with
  | .error name => return (.proceed 1, sh.complain "fg" (name ++ ": no such job"))
  | .ok j =>
    let sh := sh.print j.command
    match ← Sys.ask (.signalGroup j.pgid sigcont) with
    | .error .srch =>
      let (n, t) := sh.jobs.setStatus j.pgid .done
      return (.proceed 0, { sh with jobs := t }.notifyAll n.toList)
    | .error e => return (.proceed 1, sh.complain "fg" ("failed to continue job: " ++ e.render))
    | .ok () =>
      let (_, t) := sh.jobs.setStatus j.pgid .running
      let (status, t, ns) ← waitMembers j.pgid j.livePids 0 t []
      return (.proceed status, { sh with jobs := t }.notifyAll ns)

/-! ## `bg` -/

/-- Continues a stopped job in the background. -/
def background (args : List String) (sh : Shell) : Sys (BuiltinOutcome × Shell) := do
  let sh ← sh.reap
  match target sh.jobs args.head? sh.jobs.currentStopped with
  | .error name => return (.proceed 1, sh.complain "bg" (name ++ ": no such job"))
  | .ok j =>
    if j.status ≠ .stopped then
      return (.proceed 1, sh.complain "bg" ("job " ++ j.id.toString ++ " already in background"))
    match ← Sys.ask (.signalGroup j.pgid sigcont) with
    | .error e => return (.proceed 1, sh.complain "bg" ("failed to continue job: " ++ e.render))
    | .ok () =>
      let (_, t) := sh.jobs.setStatus j.pgid .running
      return (.proceed 0, { sh with jobs := t }.notify (.ofJob j .continued))

/-- Runs a builtin with its arguments. -/
def run : Builtin → List String → Shell → Sys (BuiltinOutcome × Shell)
  | .cd, args, sh => changeDir args sh
  | .exit, args, sh => pure (exitCode args sh)
  | .jobs, _, sh => listJobs sh
  | .fg, args, sh => foreground args sh
  | .bg, args, sh => background args sh

end Builtin

end JobControl
