import JobControl.Shell.Launch
import JobControl.Shell.Builtin
import JobControl.Line.Parse
import JobControl.Text.Blank

/-!
# Executing lines

`Shell.execute line` collects child changes, runs the line, and collects again. Running a line:

* nothing to run leaves the last status as it was;
* a refused line is reported and sets the status to 2;
* a builtin sets the status it returns, or asks to exit (leaving the status alone);
* anything else is launched: the status is the launch's, or 1 with a diagnostic when the launch
  failed.
-/

namespace JobControl

namespace Shell

/-- The status of a line that could not be read. -/
def statusUsage : Int32 := 2

/-- Runs one line between the two collections of child changes. -/
def dispatch (sh : Shell) (line : String) : Sys (LineOutcome × Shell) :=
  match Pipeline.parse line sh.config.maxStages with
  | .ok none => pure (.proceed, sh)
  | .error e => pure (.proceed, { sh.report e.message with lastStatus := statusUsage })
  | .ok (some p) =>
    match Builtin.lookup? p.program with
    | some b => do
      let (o, sh) ← b.run p.first.args sh
      match o with
      | .proceed status => return (.proceed, { sh with lastStatus := status })
      | .exit code => return (.exit code, sh)
    | none => do
      match ← sh.launch p (Text.trim line) with
      | .ok (o, sh) => return (.proceed, { sh with lastStatus := o.status })
      | .error e => return (.proceed, { sh.report e.message with lastStatus := 1 })

/-- Executes a line. -/
def execute (sh : Shell) (line : String) : Sys (LineOutcome × Shell) := do
  let sh ← sh.reap
  let (o, sh) ← sh.dispatch line
  let sh ← sh.reap
  return (o, sh)

end Shell

end JobControl
